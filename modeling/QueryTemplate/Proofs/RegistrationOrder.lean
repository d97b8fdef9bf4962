import Mathlib.Data.List.Permutation
import QueryTemplate.Proofs.Checking
import QueryTemplate.Proofs.Ranking

/-! Registration in another order.

Declarations load into an empty registry exactly if each compiles and no two have one name, and then
the registry holds what they compile to. Neither depends on their order.
-/

set_option autoImplicit false

namespace QueryTemplate

structure Loadable (definitions : List MethodDefinition) : Prop where
  distinct : (definitions.map MethodDefinition.name).Nodup
  compiles : ∀ definition ∈ definitions, ∃ method, Method.compile definition = .ok method

def MethodDefinition.compiled? (definition : MethodDefinition) : Option Method :=
  (Method.compile definition).toOption

variable {definition : MethodDefinition} {definitions permuted : List MethodDefinition}

namespace Loadable

theorem nil : Loadable [] where
  distinct := List.nodup_nil
  compiles := by simp

theorem cons_iff :
    Loadable (definition :: definitions) ↔
      (∃ method, Method.compile definition = .ok method) ∧
      (∀ other ∈ definitions, other.name ≠ definition.name) ∧ Loadable definitions := by
  have fresh : definition.name ∉ definitions.map MethodDefinition.name ↔
      ∀ other ∈ definitions, other.name ≠ definition.name := by
    simp
  constructor
  · rintro ⟨distinct, compiles⟩
    rw [List.map_cons, List.nodup_cons, fresh] at distinct
    rw [List.forall_mem_cons] at compiles
    exact ⟨compiles.1, distinct.1, distinct.2, compiles.2⟩
  · rintro ⟨first, other, distinct, compiles⟩
    exact ⟨List.nodup_cons.mpr ⟨fresh.mpr other, distinct⟩,
      List.forall_mem_cons.mpr ⟨first, compiles⟩⟩

theorem of_perm (loadable : Loadable definitions) (perm : permuted.Perm definitions) :
    Loadable permuted where
  distinct := (perm.map _).nodup_iff.mpr loadable.distinct
  compiles definition member := loadable.compiles definition (perm.mem_iff.mp member)

end Loadable

/-! ## What loads -/

namespace Verdict

variable {seen : List String}

theorem refused_eq_nil_iff :
    refused (all seen definitions) = [] ↔
      Loadable definitions ∧ ∀ definition ∈ definitions, definition.name ∉ seen := by
  induction definitions generalizing seen with
  | nil => simp [all, Loadable.nil]
  | cons definition rest ih =>
    cases verdict : definition.verdict seen with
    | error error =>
      -- A declaration that compiles under a name of its own is not refused.
      have accepted : ∀ method, Method.compile definition = .ok method → definition.name ∈ seen := by
        intro method compiled
        by_contra fresh
        rw [verdict_eq_ok_iff.mpr ⟨fresh, compiled⟩] at verdict
        cases verdict
      simp only [all, verdict, refused_error, reduceCtorEq, Loadable.cons_iff,
        List.forall_mem_cons, false_iff]
      rintro ⟨⟨⟨method, compiled⟩, _⟩, fresh, _⟩
      exact fresh (accepted method compiled)
    | ok method =>
      obtain ⟨fresh, compiled⟩ := verdict_eq_ok_iff.mp verdict
      rw [all, verdict, refused_ok, ih, Loadable.cons_iff, List.forall_mem_cons]
      simp only [List.mem_cons, not_or]
      constructor
      · rintro ⟨loadable, unseen⟩
        exact ⟨⟨⟨method, compiled⟩, fun other member => (unseen other member).1, loadable⟩,
          fresh, fun other member => (unseen other member).2⟩
      · rintro ⟨⟨_, others, loadable⟩, _, unseen⟩
        exact ⟨loadable, fun other member => ⟨others other member, unseen other member⟩⟩

theorem accepted_of_refused_eq_nil (none_refused : refused (all seen definitions) = []) :
    accepted (all seen definitions) = definitions.filterMap MethodDefinition.compiled? := by
  induction definitions generalizing seen with
  | nil => rfl
  | cons definition rest ih =>
    cases verdict : definition.verdict seen with
    | error error => simp [all, verdict] at none_refused
    | ok method =>
      obtain ⟨_, compiled⟩ := verdict_eq_ok_iff.mp verdict
      have later : refused (all (definition.name :: seen) rest) = [] := by
        simpa [all, verdict] using none_refused
      have here : definition.compiled? = some method := by
        rw [MethodDefinition.compiled?, compiled]
        rfl
      rw [all, verdict, accepted_ok, ih later, List.filterMap_cons_some here]

end Verdict

namespace Registry

open Verdict

variable {loaded : Registry}

theorem load_empty_iff_loadable :
    (∃ loaded, empty.load definitions = (loaded, .ok ())) ↔ Loadable definitions := by
  rw [load_empty_eq_ok_iff, refused_eq_nil_iff]
  simp

theorem toList_eq_compiled (ended : empty.load definitions = (loaded, .ok ())) :
    loaded.toList = definitions.filterMap MethodDefinition.compiled? := by
  rw [toList_of_load_empty ended]
  exact accepted_of_refused_eq_nil (load_empty_eq_ok_iff.mp ⟨loaded, ended⟩)

theorem coherent_of_load_empty (ended : empty.load definitions = (loaded, .ok ())) :
    loaded.Coherent := by
  have grown := (coherent_empty.of_grows (load_grows empty definitions)).1
  rwa [ended] at grown

/-! ## Registries with the same methods -/

namespace Coherent

theorem get?_eq_some_iff (coherent : loaded.Coherent) {name : String} {method : Method} :
    loaded.get? name = some method ↔ method ∈ loaded.toList ∧ method.name = name := by
  rw [coherent.mem_toList_iff]
  constructor
  · intro found
    exact ⟨⟨name, found⟩, coherent.named name method found⟩
  · rintro ⟨⟨other, found⟩, rfl⟩
    rwa [← coherent.named other method found] at found

variable {other : Registry} (coherent : loaded.Coherent) (otherCoherent : other.Coherent)
  (listed : other.toList.Perm loaded.toList)

include coherent otherCoherent listed

theorem order_perm : other.order.Perm loaded.order := by
  rw [← coherent.map_name_toList, ← otherCoherent.map_name_toList]
  exact listed.map Method.name

theorem get?_eq_of_perm (name : String) : other.get? name = loaded.get? name := by
  ext method
  rw [coherent.get?_eq_some_iff, otherCoherent.get?_eq_some_iff, listed.mem_iff]

theorem createQuery_eq_of_perm (name : String) (values : List Value) :
    other.createQuery name values = loaded.createQuery name values := by
  have suggested := suggestions_eq_of_perm name (coherent.order_perm otherCoherent listed)
  rw [createQuery, createQuery, coherent.get?_eq_of_perm otherCoherent listed, suggested]

end Coherent

end Registry

/-- Declarations that load into an empty registry load in any other order too, and both registries
answer alike: the same methods, queries and suggestions, and the same listings up to their order. -/
theorem load_forgets_order {loaded : Registry}
    (ended : Registry.empty.load definitions = (loaded, .ok ()))
    (perm : permuted.Perm definitions) :
    ∃ other, Registry.empty.load permuted = (other, .ok ()) ∧
      (∀ name values, other.createQuery name values = loaded.createQuery name values) ∧
      (∀ name, loaded.get? name = none → ∃ near, ∀ values,
        loaded.createQuery name values = .error (.methodNotFound name near) ∧
        other.createQuery name values = .error (.methodNotFound name near)) ∧
      (∀ name, other.get? name = loaded.get? name) ∧
      other.toList.Perm loaded.toList ∧ other.warnings.Perm loaded.warnings := by
  have loadable := Registry.load_empty_iff_loadable.mp ⟨loaded, ended⟩
  obtain ⟨other, reordered⟩ := Registry.load_empty_iff_loadable.mpr (loadable.of_perm perm)
  have coherent := Registry.coherent_of_load_empty ended
  have otherCoherent := Registry.coherent_of_load_empty reordered
  have listed : other.toList.Perm loaded.toList := by
    rw [Registry.toList_eq_compiled ended, Registry.toList_eq_compiled reordered]
    exact perm.filterMap _
  have created := coherent.createQuery_eq_of_perm otherCoherent listed
  refine ⟨other, reordered, created, ?_, coherent.get?_eq_of_perm otherCoherent listed, listed,
    listed.flatMap_right _⟩
  intro name unknown
  refine ⟨suggestions name loaded.order, fun values => ?_⟩
  have refused : loaded.createQuery name values =
      .error (.methodNotFound name (suggestions name loaded.order)) := by
    rw [Registry.createQuery, unknown]
  exact ⟨refused, (created name values).trans refused⟩

def alikeDefinitions : List MethodDefinition :=
  [⟨"got", ['?', '1'], [.scalar, .string]⟩, ⟨"gut", [], [.string]⟩, ⟨"get", ['?', '0'], [.scalars]⟩,
    ⟨"gat", [], []⟩]

def alikeRegistry : Registry := (Registry.empty.load alikeDefinitions).1

theorem load_forgets_order_alike :
    Registry.empty.load alikeDefinitions = (alikeRegistry, .ok ()) ∧
    alikeRegistry.createQuery "gt" [] = .error (.methodNotFound "gt" ["gat", "get", "got"]) ∧
    ∃ other, Registry.empty.load alikeDefinitions.reverse = (other, .ok ()) ∧
      other.createQuery "gt" [] = .error (.methodNotFound "gt" ["gat", "get", "got"]) ∧
      other.get? "got" = alikeRegistry.get? "got" ∧ (other.get? "got").isSome ∧
      other.warnings.Perm alikeRegistry.warnings ∧ other.warnings ≠ alikeRegistry.warnings := by
  have succeeds : (Registry.empty.load alikeDefinitions).2 = .ok () := by decide +kernel
  have ended : Registry.empty.load alikeDefinitions = (alikeRegistry, .ok ()) := Prod.ext rfl succeeds
  have missing : alikeRegistry.createQuery "gt" [] =
      .error (.methodNotFound "gt" ["gat", "get", "got"]) := by
    have unknown : alikeRegistry.get? "gt" = none := by decide +kernel
    have order : alikeRegistry.order = ["got", "gut", "get", "gat"] := by decide +kernel
    have near : suggestions "gt" ["got", "gut", "get", "gat"] = ["gat", "get", "got"] := by cbv
    rw [Registry.createQuery, unknown, order, near]
  obtain ⟨other, reordered, created, _, found, _, warnings⟩ :=
    load_forgets_order ended (List.reverse_perm alikeDefinitions)
  refine ⟨ended, missing, other, reordered, (created "gt" []).trans missing, found "got", ?_,
    warnings, ?_⟩
  · rw [found "got"]
    decide +kernel
  · have differ : (Registry.empty.load alikeDefinitions.reverse).1.warnings ≠
        alikeRegistry.warnings := by
      decide +kernel
    rwa [reordered] at differ

end QueryTemplate
