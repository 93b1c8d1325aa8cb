import Mathlib.Data.List.Basic

/-!
# Computations that may panic

A panicking computation ends in `Except.error` and carries the reason.  Loops
over a list whose body cannot panic on any of the elements are ordinary folds;
the rules here let a caller drop the panic layer once the bounds are known.
-/

/-- The reason a computation panics. -/
inductive Panic where
  | indexOutOfBounds (index length : Nat)
  | expectFailed (message : String)
  | assertFailed (message : String)
deriving DecidableEq

/-- A result, or the panic that replaced it. -/
abbrev Outcome := Except Panic

namespace Outcome

variable {α β σ : Type*}

/-- Index a list the way an unchecked slice access does. -/
def index (items : List α) (position : Nat) : Outcome α :=
  match items[position]? with
  | some item => .ok item
  | none => .error (.indexOutOfBounds position items.length)

theorem index_eq_ok {items : List α} {position : Nat} {item : α}
    (present : items[position]? = some item) :
    index items position = .ok item := by
  simp [index, present]

theorem index_eq_error {items : List α} {position : Nat}
    (outside : items.length ≤ position) :
    index items position = .error (.indexOutOfBounds position items.length) := by
  simp [index, List.getElem?_eq_none outside]

theorem bind_eq_ok {ι κ : Type} {first : Outcome ι} {rest : ι → Outcome κ} {result : κ} :
    first >>= rest = .ok result ↔ ∃ value, first = .ok value ∧ rest value = .ok result := by
  cases first with
  | error panic => simp [bind, Except.bind]
  | ok value => simp [bind, Except.bind]

theorem map_eq_ok {update : α → β} {outcome : Outcome α} {result : β} :
    outcome.map update = .ok result ↔ ∃ value, outcome = .ok value ∧ update value = result := by
  cases outcome <;> simp [Except.map]

theorem toOption_eq_some {outcome : Outcome α} {result : α} :
    outcome.toOption = some result ↔ outcome = .ok result := by
  cases outcome <;> simp [Except.toOption]

/-- A loop whose body never panics on the listed items is a plain fold. -/
theorem foldlM_eq_ok {body : σ → α → Outcome σ} {pureBody : σ → α → σ}
    {items : List α} (total : ∀ state, ∀ item ∈ items,
      body state item = .ok (pureBody state item)) (initial : σ) :
    items.foldlM body initial = .ok (items.foldl pureBody initial) := by
  induction items generalizing initial with
  | nil => rfl
  | cons item items ih =>
      rw [List.foldlM_cons, total initial item (by simp)]
      exact ih (fun state other member => total state other (by simp [member])) _

theorem mapM_eq_ok {body : α → Outcome β} {pureBody : α → β} {items : List α}
    (total : ∀ item ∈ items, body item = .ok (pureBody item)) :
    items.mapM body = .ok (items.map pureBody) := by
  induction items with
  | nil => rfl
  | cons item items ih =>
      rw [List.mapM_cons, total item (by simp),
        ih (fun other member => total other (by simp [member]))]
      rfl

theorem map_mapM {γ : Type*} (body : α → Outcome β) (change : β → γ) (items : List α) :
    (items.mapM body).map (List.map change) = items.mapM fun item => (body item).map change := by
  induction items with
  | nil => rfl
  | cons item items ih =>
      rw [List.mapM_cons, List.mapM_cons, ← ih]
      cases body item with
      | error panic => rfl
      | ok result => cases items.mapM body <;> rfl

theorem exists_mapM_eq_ok {body : α → Outcome β} {items : List α}
    (total : ∀ item ∈ items, ∃ result, body item = .ok result) :
    ∃ results, items.mapM body = .ok results := by
  induction items with
  | nil => exact ⟨[], rfl⟩
  | cons item items ih =>
      obtain ⟨result, returned⟩ := total item (by simp)
      obtain ⟨results, later⟩ := ih fun other member => total other (by simp [member])
      refine ⟨result :: results, ?_⟩
      rw [List.mapM_cons, returned, later]
      rfl

/-- A loop that returns has the result of each item, and no others. -/
theorem exists_of_mapM_eq_ok {body : α → Outcome β} {items : List α} {results : List β}
    (returned : items.mapM body = .ok results) :
    (∀ item ∈ items, ∃ result ∈ results, body item = .ok result) ∧
      ∀ result ∈ results, ∃ item ∈ items, body item = .ok result := by
  induction items generalizing results with
  | nil =>
      obtain rfl := Except.ok.inj returned
      simp
  | cons item items ih =>
      rw [List.mapM_cons] at returned
      cases first : body item with
      | error panic =>
          rw [first] at returned
          cases returned
      | ok result =>
          cases rest : items.mapM body with
          | error panic =>
              rw [first, rest] at returned
              cases returned
          | ok later =>
              rw [first, rest] at returned
              obtain rfl := Except.ok.inj returned
              obtain ⟨forward, backward⟩ := ih rest
              constructor
              · intro other member
                rcases List.mem_cons.mp member with rfl | member
                · exact ⟨result, List.mem_cons_self, first⟩
                · obtain ⟨found, listed, same⟩ := forward other member
                  exact ⟨found, List.mem_cons_of_mem _ listed, same⟩
              · intro other member
                rcases List.mem_cons.mp member with rfl | member
                · exact ⟨item, List.mem_cons_self, first⟩
                · obtain ⟨found, listed, same⟩ := backward other member
                  exact ⟨found, List.mem_cons_of_mem _ listed, same⟩

theorem foldlM_eq_error_of_mem {body : σ → α → Outcome σ} {items : List α}
    {item : α} (member : item ∈ items)
    (panics : ∀ state, ∃ panic, body state item = .error panic) (initial : σ) :
    ∃ panic, items.foldlM body initial = .error panic := by
  induction items generalizing initial with
  | nil => simp at member
  | cons first items ih =>
      rw [List.foldlM_cons]
      cases executed : body initial first with
      | error panic => exact ⟨panic, rfl⟩
      | ok next =>
          rcases List.mem_cons.mp member with rfl | later
          · obtain ⟨panic, panicked⟩ := panics initial
            rw [panicked] at executed
            cases executed
          · exact ih later next

end Outcome
