-- The laws of the shared registry over whole runs: the first call that
-- succeeds sets the slot, no later call changes it, and a call that fails
-- before that leaves no trace.
import Mathlib.Data.List.Induction
import RuleFields.SharedRegistry
import RuleFields.Proofs.Registration

namespace RuleFields

/-! ## Runs -/

/-- A call on the shared registry. -/
inductive Request where
  | use
  | install (b : Builder)

namespace SharedRegistry

def unset : SharedRegistry := none

/-- The answer to one request, and the slot after it. -/
def serve (slot : SharedRegistry) : Request → Step
  | .use => slot.use
  | .install b => slot.install b.fields

/-- The answers to a list of requests in order, and the slot after all of them. -/
def run (slot : SharedRegistry) :
    List Request → Traced (List (Except FieldError Registry) × SharedRegistry)
  | [] => pure ([], slot)
  | q :: rest => do
    let (answer, slot) ← slot.serve q
    let (answers, slot) ← run slot rest
    return (answer :: answers, slot)

def answers (slot : SharedRegistry) (requests : List Request) : List (Except FieldError Registry) :=
  (slot.run requests).value.1

/-- The slot after the requests. -/
def after (slot : SharedRegistry) (requests : List Request) : SharedRegistry :=
  (slot.run requests).value.2

/-- What the requests report. -/
def events (slot : SharedRegistry) (requests : List Request) : List Event :=
  (slot.run requests).events

@[simp] theorem answers_nil (slot : SharedRegistry) : slot.answers [] = [] := rfl

@[simp] theorem after_nil (slot : SharedRegistry) : slot.after [] = slot := rfl

@[simp] theorem events_nil (slot : SharedRegistry) : slot.events [] = [] := rfl

@[simp] theorem answers_cons (slot : SharedRegistry) (q : Request) (rest : List Request) :
    slot.answers (q :: rest) = (slot.serve q).value.1 :: (slot.serve q).value.2.answers rest := rfl

@[simp] theorem after_cons (slot : SharedRegistry) (q : Request) (rest : List Request) :
    slot.after (q :: rest) = (slot.serve q).value.2.after rest := rfl

@[simp] theorem events_cons (slot : SharedRegistry) (q : Request) (rest : List Request) :
    slot.events (q :: rest) = (slot.serve q).events ++ (slot.serve q).value.2.events rest := by
  unfold events
  rw [run, Traced.events_bind, Traced.events_bind, Traced.events_pure, List.append_nil]

theorem answers_append (slot : SharedRegistry) (before rest : List Request) :
    slot.answers (before ++ rest) = slot.answers before ++ (slot.after before).answers rest := by
  induction before generalizing slot with
  | nil => rfl
  | cons q before ih => simp [ih]

theorem after_append (slot : SharedRegistry) (before rest : List Request) :
    slot.after (before ++ rest) = (slot.after before).after rest := by
  induction before generalizing slot with
  | nil => rfl
  | cons q before ih => simp [ih]

theorem events_append (slot : SharedRegistry) (before rest : List Request) :
    slot.events (before ++ rest) = slot.events before ++ (slot.after before).events rest := by
  induction before generalizing slot with
  | nil => rfl
  | cons q before ih => simp [ih]

theorem length_answers (slot : SharedRegistry) (requests : List Request) :
    (slot.answers requests).length = requests.length := by
  induction requests generalizing slot with
  | nil => rfl
  | cons q rest ih => simp [ih]

/-- Each answer is that of one request to the slot as the requests before it left it. -/
theorem getElem?_answers (slot : SharedRegistry) (requests : List Request) (i : Nat) :
    (slot.answers requests)[i]? =
      requests[i]?.map fun q => ((slot.after (requests.take i)).serve q).value.1 := by
  induction requests generalizing slot i with
  | nil => rfl
  | cons q rest ih =>
    cases i with
    | zero => rfl
    | succ i => simp [ih]

/-! ## One request -/

@[simp] theorem serve_install_some (r : Registry) (b : Builder) :
    serve (some r) (.install b) = pure (.error .alreadyInitialized, some r) := rfl

/-- An unset slot takes what is built, and stays unset if nothing is. -/
theorem fill_eq (fields : List Field) :
    (fill fields).value = ((Registry.build fields).value, (Registry.build fields).value.toOption) ∧
      (fill fields).events = (Registry.build fields).events := by
  unfold fill
  rw [Traced.value_bind, Traced.events_bind]
  cases (Registry.build fields).value with
  | error e => exact ⟨rfl, by simp⟩
  | ok r => exact ⟨rfl, by simp⟩

theorem serve_install_none (b : Builder) :
    (serve none (.install b)).value = (b.build.value, b.build.value.toOption) ∧
      (serve none (.install b)).events = b.build.events := fill_eq b.fields

theorem serve_use_none :
    ∃ r, (serve none .use).value = (.ok r, some r) ∧
      (Builder.ofCalls [.builtins]).build.value = .ok r := by
  obtain ⟨r, hr⟩ := Registry.exists_build_of_acceptable acceptable_builtins
  refine ⟨r, ?_, by simpa [Builder.build, registered, Registration.fields] using hr⟩
  have hfill := (fill_eq Builtin.all).1
  rw [hr] at hfill
  exact hfill

/-- What an unset slot answers is what it holds from then on. -/
theorem serve_none_slot (q : Request) :
    (serve none q).value.2 = (serve none q).value.1.toOption := by
  cases q with
  | use =>
    obtain ⟨r, hserve, -⟩ := serve_use_none
    rw [hserve]
    rfl
  | install b => rw [(serve_install_none b).1]

/-- An answer that is a registry is what the slot holds after it. -/
theorem slot_of_answer {slot : SharedRegistry} {q : Request} {r : Registry}
    (h : (slot.serve q).value.1 = .ok r) : (slot.serve q).value.2 = some r := by
  cases slot with
  | some r' =>
    cases q with
    | use => cases h; rfl
    | install b => cases h
  | none =>
    rw [serve_none_slot, h]
    rfl

/-- A slot that holds a registry got it as the answer to a request or held it before. -/
theorem answer_of_slot {slot : SharedRegistry} {q : Request} {r : Registry}
    (h : (slot.serve q).value.2 = some r) : slot = some r ∨ (slot.serve q).value.1 = .ok r := by
  cases slot with
  | some r' =>
    cases q with
    | use => exact Or.inl h
    | install b => exact Or.inl h
  | none =>
    right
    rw [serve_none_slot] at h
    cases hanswer : (serve none q).value.1 with
    | ok r' =>
      rw [hanswer] at h
      cases h
      rfl
    | error e =>
      rw [hanswer] at h
      cases h

theorem serve_some_slot (r : Registry) (q : Request) : (serve (some r) q).value.2 = some r := by
  cases q <;> rfl

/-! ## Runs that set the slot -/

/-- Once set, the slot stays as it is. -/
theorem after_some (r : Registry) (requests : List Request) : after (some r) requests = some r := by
  induction requests with
  | nil => rfl
  | cons q rest ih => rw [after_cons, serve_some_slot, ih]

/-- The slot holds a registry after a run exactly when it held it before or an answer was it. -/
theorem after_eq_some_iff (requests : List Request) (r : Registry) :
    unset.after requests = some r ↔ .ok r ∈ unset.answers requests := by
  induction requests using List.reverseRecOn with
  | nil => simp [unset]
  | append_singleton before q ih =>
    rw [after_append, answers_append, List.mem_append, ← ih]
    simp only [after_cons, after_nil, answers_cons, answers_nil, List.mem_singleton]
    refine ⟨fun h => ?_, ?_⟩
    · exact (answer_of_slot h).imp_right Eq.symm
    · rintro (h | h)
      · rw [h, serve_some_slot]
      · exact slot_of_answer h.symm

/-- After an answer that is a registry, every later request finds it in the slot. -/
theorem after_take_of_answer {requests : List Request} {i j : Nat} {r : Registry} (hij : i < j)
    (h : (unset.answers requests)[i]? = some (.ok r)) : unset.after (requests.take j) = some r := by
  apply (after_eq_some_iff _ r).mpr
  have hsplit : unset.answers requests = unset.answers (requests.take j) ++
      (unset.after (requests.take j)).answers (requests.drop j) := by
    rw [← answers_append, List.take_append_drop]
  have hi : i < requests.length := by
    rw [← length_answers unset]
    exact (List.getElem?_eq_some_iff.mp h).1
  rw [hsplit, List.getElem?_append_left] at h
  · exact List.mem_of_getElem? h
  · rw [length_answers, List.length_take]
    omega

/-! ## Uses and installs in a run -/

section
variable {requests : List Request} {i j : Nat}

/-- The answer to a request after another answer that is a registry. -/
theorem getElem?_answers_of_answer {r : Registry} (hij : i < j)
    (h : (unset.answers requests)[i]? = some (.ok r)) :
    (unset.answers requests)[j]? = requests[j]?.map fun q => (serve (some r) q).value.1 := by
  rw [getElem?_answers, after_take_of_answer hij h]

/-- A use is answered by what the slot holds, or by the built-in registry if nothing is set. -/
theorem answer_of_use (h : requests[i]? = some .use) :
    ∃ r, (unset.answers requests)[i]? = some (.ok r) ∧
      (unset.after (requests.take i) = none →
        (Builder.ofCalls [.builtins]).build.value = .ok r) := by
  rw [getElem?_answers, h, Option.map_some]
  cases unset.after (requests.take i) with
  | some r => exact ⟨r, rfl, fun hnone => by cases hnone⟩
  | none =>
    obtain ⟨r, hserve, hbuild⟩ := serve_use_none
    exact ⟨r, by rw [hserve], fun _ => hbuild⟩

/-- The slot is unset as long as no answer is a registry. -/
theorem after_take_eq_none
    (h : ∀ j < i, ∀ r, (unset.answers requests)[j]? ≠ some (.ok r)) :
    unset.after (requests.take i) = none := by
  rw [Option.eq_none_iff_forall_ne_some]
  intro r hr
  have hmem := (after_eq_some_iff _ r).mp hr
  obtain ⟨j, hj⟩ := List.mem_iff_getElem?.mp hmem
  have hlt : j < (requests.take i).length := by
    rw [← length_answers unset]
    exact (List.getElem?_eq_some_iff.mp hj).1
  have hji : j < i := by
    rw [List.length_take] at hlt
    omega
  apply h j hji r
  rw [← List.take_append_drop i requests, answers_append, List.getElem?_append_left, hj]
  rw [length_answers]
  exact hlt

/-- An install after an answer that is a registry is refused. -/
theorem answer_of_late_install {r : Registry} {b : Builder} (hij : i < j)
    (hi : (unset.answers requests)[i]? = some (.ok r)) (hj : requests[j]? = some (.install b)) :
    (unset.answers requests)[j]? = some (.error .alreadyInitialized) := by
  rw [getElem?_answers_of_answer hij hi, hj]
  rfl

end

/-! ## Installs while nothing is set -/

/-- An install that fails to build changes nothing and reports nothing. -/
theorem serve_failed_install {b : Builder} {e : FieldError} (h : b.build.value = .error e) :
    (serve none (.install b)).value = (.error e, none) ∧
      (serve none (.install b)).events = [] := by
  obtain ⟨hvalue, hevents⟩ := serve_install_none b
  rw [hvalue, hevents, h]
  exact ⟨rfl, Registry.events_build_of_error h⟩

theorem answers_failed_install {before : List Request} {b : Builder} {e : FieldError}
    (hslot : unset.after before = none) (hb : b.build.value = .error e) (rest : List Request) :
    unset.answers (before ++ .install b :: rest) =
      unset.answers before ++ .error e :: (unset.answers (before ++ rest)).drop before.length := by
  obtain ⟨hvalue, -⟩ := serve_failed_install hb
  rw [answers_append, answers_append, hslot, answers_cons, hvalue, ← length_answers unset,
    List.drop_left]

end SharedRegistry

/-! ## The laws -/

open SharedRegistry in
/-- In a run of calls on the shared registry, in any order and with any builders, the first that
succeeds sets it for good. A use always succeeds, an install only while nothing is set, and an
install that fails leaves no trace. -/
theorem the_shared_registry_is_set_once (requests : List Request) :
    (∀ (i j : Nat) r, i < j → (unset.answers requests)[i]? = some (.ok r) →
      requests[j]? = some .use → (unset.answers requests)[j]? = some (.ok r)) ∧
    (∀ i : Nat, requests[i]? = some .use → ∃ r, (unset.answers requests)[i]? = some (.ok r) ∧
      ((∀ j < i, ∀ r', (unset.answers requests)[j]? ≠ some (.ok r')) →
        (Builder.ofCalls [.builtins]).build.value = .ok r)) ∧
    (∀ r, unset.after requests = some r ↔ .ok r ∈ unset.answers requests) ∧
    (unset.after requests = none → ∀ b,
      unset.answers (requests ++ [.install b]) = unset.answers requests ++ [b.build.value] ∧
      unset.events (requests ++ [.install b]) = unset.events requests ++ b.build.events ∧
      ∀ e, b.build.value = .error e → unset.after (requests ++ [.install b]) = none ∧ ∀ rest,
        unset.answers (requests ++ .install b :: rest) = unset.answers requests ++
          .error e :: (unset.answers (requests ++ rest)).drop requests.length ∧
        unset.after (requests ++ .install b :: rest) = unset.after (requests ++ rest) ∧
        unset.events (requests ++ .install b :: rest) = unset.events (requests ++ rest)) ∧
    (∀ r, unset.after requests = some r → ∀ b,
      unset.answers (requests ++ [.install b]) =
        unset.answers requests ++ [.error .alreadyInitialized] ∧
      unset.after (requests ++ [.install b]) = some r ∧
      unset.events (requests ++ [.install b]) = unset.events requests) ∧
    (∀ (i j : Nat) b c r r', requests[i]? = some (.install b) → requests[j]? = some (.install c) →
      (unset.answers requests)[i]? = some (.ok r) →
      (unset.answers requests)[j]? = some (.ok r') → i = j) ∧
    (∀ (i j : Nat) b, i < j → requests[i]? = some .use → requests[j]? = some (.install b) →
      (unset.answers requests)[j]? = some (.error .alreadyInitialized)) := by
  refine ⟨?_, ?_, after_eq_some_iff requests, ?_, ?_, ?_, ?_⟩
  · intro i j r hij hi hj
    rw [getElem?_answers_of_answer hij hi, hj]
    rfl
  · intro i hi
    obtain ⟨r, hr, hbuild⟩ := answer_of_use hi
    exact ⟨r, hr, fun hnone => hbuild (after_take_eq_none hnone)⟩
  · intro hslot b
    obtain ⟨hvalue, hevents⟩ := serve_install_none b
    refine ⟨?_, ?_, fun e hb => ?_⟩
    · rw [answers_append, hslot, answers_cons, hvalue, answers_nil]
    · rw [events_append, hslot, events_cons, hevents, events_nil, List.append_nil]
    · obtain ⟨hfail, hquiet⟩ := serve_failed_install hb
      refine ⟨by rw [after_append, hslot, after_cons, hfail, after_nil], fun rest => ?_⟩
      refine ⟨answers_failed_install hslot hb rest, ?_, ?_⟩
      · rw [after_append, after_append, hslot, after_cons, hfail]
      · rw [events_append, events_append, hslot, events_cons, hfail, hquiet, List.nil_append]
  · intro r hslot b
    refine ⟨?_, ?_, ?_⟩
    · rw [answers_append, hslot]
      rfl
    · rw [after_append, hslot, after_some]
    · rw [events_append, hslot]
      simp
  · intro i j b c r r' hbi hcj hi hj
    rcases Nat.lt_trichotomy i j with hij | hij | hji
    · rw [answer_of_late_install hij hi hcj] at hj
      cases hj
    · exact hij
    · rw [answer_of_late_install hji hj hbi] at hi
      cases hi
  · intro i j b hij hi hj
    obtain ⟨r, hr, -⟩ := answer_of_use hi
    exact answer_of_late_install hij hr hj

end RuleFields
