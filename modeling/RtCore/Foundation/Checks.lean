import Mathlib.Data.List.Forall2
import Mathlib.Data.List.Perm.Basic

/-!
# Checks that throw

Validation is a sequence of checks, each of which may throw. These rules take a sequence that
succeeded apart: every check held, every element passed.

## Main results

* `bind_eq_ok`, `refuseIf_eq_ok`, `forM_eq_ok`, `mapM_eq_ok`
-/

namespace RtCore.Foundation

variable {ε α β : Type}

/-- Throws if the condition holds. -/
def refuseIf (condition : Prop) [Decidable condition] (error : ε) : Except ε Unit :=
  if condition then .error error else .ok ()

theorem refuseIf_eq_ok {condition : Prop} [Decidable condition] {error : ε} :
    refuseIf condition error = .ok () ↔ ¬condition := by
  unfold refuseIf
  split_ifs with holds
  · exact ⟨nofun, fun fails => absurd holds fails⟩
  · exact ⟨fun _ => holds, fun _ => rfl⟩

theorem bind_eq_ok {first : Except ε α} {next : α → Except ε β} {result : β} :
    first >>= next = .ok result ↔ ∃ value, first = .ok value ∧ next value = .ok result := by
  cases first with
  | error error => exact ⟨nofun, nofun⟩
  | ok value =>
    refine ⟨fun done => ⟨value, rfl, done⟩, ?_⟩
    rintro ⟨_, same, done⟩
    cases same
    exact done

/-- Two checks in turn. -/
theorem andThen_eq_ok {first second : Except ε Unit} :
    (first >>= fun _ => second) = .ok () ↔ first = .ok () ∧ second = .ok () := by
  rw [bind_eq_ok]
  exact ⟨fun ⟨_, holds, rest⟩ => ⟨holds, rest⟩, fun ⟨holds, rest⟩ => ⟨(), holds, rest⟩⟩

theorem forM_eq_ok {check : α → Except ε Unit} {items : List α} :
    items.forM check = .ok () ↔ ∀ item ∈ items, check item = .ok () := by
  induction items with
  | nil => exact ⟨fun _ => nofun, fun _ => rfl⟩
  | cons item items ih =>
    change (check item >>= fun _ => items.forM check) = .ok () ↔ _
    rw [andThen_eq_ok, List.forall_mem_cons]
    exact and_congr_right fun _ => ih

/-- Every element is converted, in order. -/
theorem mapM_eq_ok {convert : α → Except ε β} {items : List α} {results : List β} :
    items.mapM convert = .ok results ↔
      List.Forall₂ (fun item result => convert item = .ok result) items results := by
  induction items generalizing results with
  | nil =>
    rw [List.mapM_nil, List.forall₂_nil_left_iff]
    exact ⟨fun same => (Except.ok.inj same).symm, fun same => congrArg Except.ok same.symm⟩
  | cons item items ih =>
    rw [List.mapM_cons, List.forall₂_cons_left_iff]
    constructor
    · intro done
      obtain ⟨result, here, done⟩ := bind_eq_ok.mp done
      obtain ⟨later, rest, done⟩ := bind_eq_ok.mp done
      cases done
      exact ⟨result, later, here, ih.mp rest, rfl⟩
    · rintro ⟨result, later, here, rest, rfl⟩
      rw [here, ih.mpr rest]
      rfl

/-- The same for conversions that may have no result. -/
theorem mapM_eq_some {convert : α → Option β} {items : List α} {results : List β} :
    items.mapM convert = some results ↔
      List.Forall₂ (fun item result => convert item = some result) items results := by
  induction items generalizing results with
  | nil =>
    rw [List.mapM_nil, List.forall₂_nil_left_iff]
    exact Option.some_inj.trans eq_comm
  | cons item items ih =>
    rw [List.mapM_cons, List.forall₂_cons_left_iff]
    constructor
    · intro done
      obtain ⟨first, converted, rest⟩ := Option.bind_eq_some_iff.mp done
      obtain ⟨others, convertedAll, same⟩ := Option.bind_eq_some_iff.mp rest
      exact ⟨first, others, converted, ih.mp convertedAll, (Option.some.inj same).symm⟩
    · rintro ⟨first, others, converted, convertedAll, rfl⟩
      rw [converted, ih.mpr convertedAll]
      rfl

/-- Conversions that all have a result. -/
theorem isSome_mapM {convert : α → Option β} {items : List α}
    (each : ∀ item ∈ items, (convert item).isSome = true) :
    (items.mapM convert).isSome = true := by
  induction items with
  | nil => rfl
  | cons item items ih =>
    obtain ⟨result, converted⟩ := Option.isSome_iff_exists.mp (each item List.mem_cons_self)
    obtain ⟨results, others⟩ := Option.isSome_iff_exists.mp
      (ih fun other member => each other (List.mem_cons_of_mem item member))
    rw [List.mapM_cons, converted, others]
    rfl

/-- What stands in one of two related lists has its partner in the other. -/
theorem exists_left_of_forall₂ {R : α → β → Prop} {items : List α} {results : List β}
    (related : List.Forall₂ R items results) {result : β} (member : result ∈ results) :
    ∃ item ∈ items, R item result := by
  induction related with
  | nil => exact absurd member List.not_mem_nil
  | cons here _ ih =>
    rcases List.mem_cons.mp member with rfl | member
    · exact ⟨_, List.mem_cons_self, here⟩
    · obtain ⟨item, member, there⟩ := ih member
      exact ⟨item, List.mem_cons_of_mem _ member, there⟩

/-- A relation follows from another where it is only asked of what the lists have. -/
theorem forall₂_imp_of_mem {R S : α → β → Prop} {items : List α} {results : List β}
    (related : List.Forall₂ R items results)
    (follows : ∀ item ∈ items, ∀ result ∈ results, R item result → S item result) :
    List.Forall₂ S items results := by
  induction related with
  | nil => exact .nil
  | cons here _ ih =>
    refine .cons (follows _ List.mem_cons_self _ List.mem_cons_self here) (ih ?_)
    intro item member result within
    exact follows item (List.mem_cons_of_mem _ member) result (List.mem_cons_of_mem _ within)

theorem mem_of_mapM_eq_ok {convert : α → Except ε β} {items : List α} {results : List β}
    (done : items.mapM convert = .ok results) {result : β} (member : result ∈ results) :
    ∃ item ∈ items, convert item = .ok result :=
  exists_left_of_forall₂ (mapM_eq_ok.mp done) member

theorem mem_mapM_of_mem {convert : α → Except ε β} {items : List α} {results : List β}
    (done : items.mapM convert = .ok results) {item : α} (member : item ∈ items) :
    ∃ result ∈ results, convert item = .ok result :=
  exists_left_of_forall₂ (mapM_eq_ok.mp done).flip member

/-- What is at a place was made of what was there. -/
theorem convert_of_getElem? {convert : α → Except ε β} {items : List α} {results : List β}
    (done : items.mapM convert = .ok results) {i : ℕ} {result : β}
    (there : results[i]? = some result) :
    ∃ item, items[i]? = some item ∧ convert item = .ok result := by
  obtain ⟨length, pairs⟩ := List.forall₂_iff_get.mp (mapM_eq_ok.mp done)
  obtain ⟨inside, rfl⟩ := List.getElem?_eq_some_iff.mp there
  have inside' : i < items.length := length ▸ inside
  exact ⟨items[i], List.getElem?_eq_getElem inside', pairs i inside' inside⟩

theorem exists_mapM_eq_ok {convert : α → Except ε β} {items : List α}
    (converts : ∀ item ∈ items, ∃ result, convert item = .ok result) :
    ∃ results, items.mapM convert = .ok results := by
  induction items with
  | nil => exact ⟨[], rfl⟩
  | cons item items ih =>
    obtain ⟨result, here⟩ := converts item List.mem_cons_self
    obtain ⟨results, rest⟩ := ih fun other member => converts other (List.mem_cons_of_mem _ member)
    refine ⟨result :: results, ?_⟩
    rw [List.mapM_cons, here, rest]
    rfl

end RtCore.Foundation
