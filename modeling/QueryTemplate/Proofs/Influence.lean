import Mathlib.Algebra.Order.BigOperators.Group.List
import Mathlib.Algebra.Order.Group.Nat
import QueryTemplate.Proofs.Compilation

/-! Which parameters a query depends on.

Filling looks up the indices of the placeholders and no others. A parameter that a placeholder
refers to makes a difference: of two values of its kind the one with the longer fragment gives the
longer query.
-/

set_option autoImplicit false

namespace QueryTemplate

def AgreeOff {α : Type} (position : Nat) (first second : List α) : Prop :=
  ∀ other, other ≠ position → first[other]? = second[other]?

/-! ## What filling looks at -/

theorem Segment.fill_congr {first second : Nat → Option Argument} {segments : List Segment}
    (same : ∀ index, .placeholder index ∈ segments → first index = second index) (count : Nat)
    (buffer : Text) : fill first count buffer segments = fill second count buffer segments := by
  induction segments generalizing buffer with
  | nil => rfl
  | cons segment rest ih =>
    have later := ih fun index member => same index (List.mem_cons_of_mem segment member)
    cases segment with
    | literal text => exact later (buffer ++ text)
    | placeholder index =>
      have here := same index List.mem_cons_self
      simp only [fill, here, later]

namespace Template

variable {template : Template} {first second : List Argument}

theorem bind_congr (counted : first.length = second.length)
    (same : ∀ index ∈ template.placeholders, first[index]? = second[index]?) :
    template.bind first = template.bind second := by
  rw [bind, bind, counted]
  exact Segment.fill_congr (fun index member => same index (mem_placeholders.mpr member)) _ _

/-- Longer fragments make a longer query, if some placeholder has one. -/
theorem length_splice_lt {shorter longer : Nat → Text}
    (each : ∀ index ∈ template.placeholders, (shorter index).length ≤ (longer index).length)
    (one : ∃ index ∈ template.placeholders, (shorter index).length < (longer index).length) :
    (template.segments.flatMap (Segment.splice shorter)).length <
      (template.segments.flatMap (Segment.splice longer)).length := by
  rw [List.length_flatMap, List.length_flatMap]
  apply List.sum_lt_sum
  · intro segment member
    cases segment with
    | literal text => exact Nat.le_refl _
    | placeholder index => exact each index (mem_placeholders.mpr member)
  · obtain ⟨index, member, less⟩ := one
    exact ⟨_, mem_placeholders.mp member, less⟩

theorem length_bind_lt {position : Nat} {short long query queried : Text}
    (referenced : position ∈ template.placeholders) (agree : AgreeOff position first second)
    (shorter : Argument.Gives first position short) (longer : Argument.Gives second position long)
    (less : short.length < long.length) (bound : template.bind first = .ok query)
    (rebound : template.bind second = .ok queried) : query.length < queried.length := by
  obtain ⟨fragment, given, rfl⟩ := bind_eq_ok_iff.mp bound
  obtain ⟨other, regiven, rfl⟩ := bind_eq_ok_iff.mp rebound
  have here : (fragment position).length < (other position).length := by
    rw [(given position referenced).unique shorter, (regiven position referenced).unique longer]
    exact less
  refine length_splice_lt ?_ ⟨position, referenced, here⟩
  intro index member
  by_cases same : index = position
  · rw [same]
    exact Nat.le_of_lt here
  · -- Elsewhere both lists hold the same argument, which has one fragment.
    have unchanged := (given index member).congr (agree index same)
    rw [unchanged.unique (regiven index member)]

end Template

/-! ## Values that make a difference -/

namespace Kind

def brief : Kind → Value
  | .string => .string []
  | .scalar => .integer 0
  | .collection _ => .list []

def lengthy : Kind → Value
  | .string => .string ['a']
  | .scalar => .integer 10
  | .strings => .list [.string []]
  | .scalars => .list [.integer 0]

theorem exists_fragments (kind : Kind) :
    ∃ short long, kind.brief.format kind = .ok short ∧ kind.lengthy.format kind = .ok long ∧
      short.length < long.length := by
  rcases kind with element | element <;> cases element <;> exact ⟨_, _, rfl, rfl, by decide⟩

end Kind

namespace Method

variable {method : Method} {index : Nat} {first second : List Value}

def sample (method : Method) (marked : Nat → Bool) : List Value :=
  method.params.mapIdx fun position kind => if marked position then kind.lengthy else kind.brief

theorem length_sample (method : Method) (marked : Nat → Bool) :
    (method.sample marked).length = method.params.length := List.length_mapIdx

theorem getElem?_arguments_sample (method : Method) (marked : Nat → Bool) (position : Nat) :
    (method.arguments (method.sample marked))[position]? =
      method.params[position]?.map fun kind =>
        ⟨kind, if marked position then kind.lengthy else kind.brief⟩ := by
  rw [arguments, List.getElem?_zipWith, sample, List.getElem?_mapIdx]
  cases method.params[position]? <;> rfl

theorem conform_sample (method : Method) (marked : Nat → Bool) :
    Argument.Conform (method.arguments (method.sample marked)) := by
  intro argument member
  obtain ⟨position, found⟩ := List.mem_iff_getElem?.mp member
  rw [getElem?_arguments_sample] at found
  obtain ⟨kind, _, rfl⟩ := Option.map_eq_some_iff.mp found
  obtain ⟨short, long, brief, lengthy, _⟩ := kind.exists_fragments
  by_cases here : marked position
  · exact ⟨long, by simpa [Argument.format, here] using lengthy⟩
  · exact ⟨short, by simpa [Argument.format, here] using brief⟩

theorem agreeOff_sample (method : Method) (index : Nat) :
    AgreeOff index (method.sample fun _ => false) (method.sample (· == index)) := by
  intro position differ
  simp [sample, List.getElem?_mapIdx, differ]

theorem agreeOff_arguments (agree : AgreeOff index first second) :
    AgreeOff index (method.arguments first) (method.arguments second) := by
  intro position differ
  rw [arguments, arguments, List.getElem?_zipWith, List.getElem?_zipWith, agree position differ]

theorem mem_unusedParameters_iff :
    index ∈ method.unusedParameters ↔
      index < method.params.length ∧ index ∉ method.template.referenced := by
  simp [unusedParameters, ← Std.TreeSet.contains_iff_mem]

theorem createQuery_congr (absent : index ∉ method.template.referenced)
    (counted : first.length = method.params.length)
    (recounted : second.length = method.params.length) (agree : AgreeOff index first second) :
    method.createQuery first = method.createQuery second := by
  rw [createQuery_eq_bind counted, createQuery_eq_bind recounted]
  apply Template.bind_congr
  · rw [length_arguments counted, length_arguments recounted, counted, recounted]
  · intro other member
    apply agreeOff_arguments agree
    rintro rfl
    exact absent (Template.mem_referenced.mpr member)

/-- The values at the position make no difference to any query. -/
def Ignores (method : Method) (index : Nat) : Prop :=
  ∀ first second : List Value, first.length = method.params.length →
    second.length = method.params.length → AgreeOff index first second →
    method.createQuery first = method.createQuery second

/-- Two lists of conforming values that tell by the query which one it was made of. -/
theorem Compiled.exists_queries (compiled : method.Compiled)
    (referenced : index ∈ method.template.referenced) :
    ∃ query other, method.createQuery (method.sample fun _ => false) = .ok query ∧
      method.createQuery (method.sample (· == index)) = .ok other ∧ query ≠ other := by
  have filled : ∀ marked, ∃ query,
      method.template.bind (method.arguments (method.sample marked)) = .ok query := by
    intro marked
    rw [Template.exists_bind_iff]
    intro position member
    rw [(method.conform_sample marked).gives_iff, length_arguments (method.length_sample marked),
      length_sample]
    exact compiled.within position member
  have member := Template.mem_referenced.mp referenced
  have within := compiled.within index member
  have given : ∀ marked {fragment}, Argument.format ⟨method.params[index],
      if marked index then method.params[index].lengthy else method.params[index].brief⟩ =
        .ok fragment →
      Argument.Gives (method.arguments (method.sample marked)) index fragment := by
    intro marked fragment formatted
    rw [Argument.gives_iff_getElem?, getElem?_arguments_sample, List.getElem?_eq_getElem within]
    exact ⟨_, rfl, formatted⟩
  -- The two lists differ in one fragment, which is longer in the second query wherever it occurs.
  obtain ⟨short, long, brief, lengthy, less⟩ := method.params[index].exists_fragments
  obtain ⟨query, bound⟩ := filled fun _ => false
  obtain ⟨other, rebound⟩ := filled (· == index)
  have longer := Template.length_bind_lt member (agreeOff_arguments (method.agreeOff_sample index))
    (given (fun _ => false) brief) (given (· == index) (by simpa [Argument.format] using lengthy))
    less bound rebound
  refine ⟨query, other, ?_, ?_, ?_⟩
  · rw [createQuery_eq_bind (length_sample _ _), bound]
  · rw [createQuery_eq_bind (length_sample _ _), rebound]
  · rintro rfl
    exact Nat.lt_irrefl _ longer

theorem Compiled.mem_unusedParameters_iff_ignores (compiled : method.Compiled)
    (declared : index < method.params.length) :
    index ∈ method.unusedParameters ↔ method.Ignores index := by
  rw [mem_unusedParameters_iff]
  constructor
  · rintro ⟨_, absent⟩ first second counted recounted agree
    exact createQuery_congr absent counted recounted agree
  · intro ignores
    refine ⟨declared, ?_⟩
    intro referenced
    obtain ⟨query, other, made, remade, differ⟩ := compiled.exists_queries referenced
    have same := ignores _ _ (length_sample _ _) (length_sample _ _) (method.agreeOff_sample index)
    rw [made, remade] at same
    exact differ (Except.ok.inj same)

theorem warnings_eq_nil_iff :
    method.warnings = [] ↔
      ∀ index < method.params.length, index ∈ method.template.referenced := by
  rw [warnings, List.map_eq_nil_iff, List.eq_nil_iff_forall_not_mem]
  simp only [mem_unusedParameters_iff, not_and, not_not]

end Method

/-- The unused parameters of a compiled method are those whose values make no difference to any
query, be it a text or an error; each of the others makes a difference between lists of conforming
values. They are in ascending order, and every parameter is either unused or referenced. -/
theorem unusedParameters_make_no_difference {definition : MethodDefinition} {method : Method}
    (compiled : Method.compile definition = .ok method) :
    (∀ index < method.params.length,
      index ∈ method.unusedParameters ↔
        ∀ first second : List Value, first.length = method.params.length →
          second.length = method.params.length → AgreeOff index first second →
          method.createQuery first = method.createQuery second) ∧
    (∀ index < method.params.length, index ∉ method.unusedParameters →
      ∃ first second : List Value, first.length = method.params.length ∧
        second.length = method.params.length ∧ AgreeOff index first second ∧
        Argument.Conform (method.arguments first) ∧ Argument.Conform (method.arguments second) ∧
        ∃ query other, method.createQuery first = .ok query ∧
          method.createQuery second = .ok other ∧ query ≠ other) ∧
    (method.warnings = [] ↔
      ∀ index < method.params.length, ∃ first second : List Value,
        first.length = method.params.length ∧ second.length = method.params.length ∧
        AgreeOff index first second ∧ method.createQuery first ≠ method.createQuery second) ∧
    method.unusedParameters.Pairwise (· < ·) ∧
    (∀ index, (index ∈ method.unusedParameters ∨ index ∈ method.template.referenced ↔
        index < method.params.length) ∧
      ¬ (index ∈ method.unusedParameters ∧ index ∈ method.template.referenced)) := by
  have valid := Method.Compiled.of_compile compiled
  have ignored : ∀ index < method.params.length,
      index ∈ method.unusedParameters ↔ method.Ignores index :=
    fun _ => valid.mem_unusedParameters_iff_ignores
  refine ⟨ignored, ?_, ?_, List.pairwise_lt_range.filter _, ?_⟩
  · intro index declared used
    rw [Method.mem_unusedParameters_iff, not_and, not_not] at used
    exact ⟨_, _, method.length_sample _, method.length_sample _, method.agreeOff_sample index,
      method.conform_sample _, method.conform_sample _, valid.exists_queries (used declared)⟩
  · rw [Method.warnings_eq_nil_iff]
    apply forall₂_congr
    intro index declared
    have tells := not_congr (ignored index declared)
    simp only [Method.mem_unusedParameters_iff, declared, true_and, not_not, Method.Ignores,
      not_forall, exists_prop] at tells
    exact tells
  · intro index
    rw [Method.mem_unusedParameters_iff]
    refine ⟨⟨?_, ?_⟩, fun ⟨⟨_, absent⟩, referenced⟩ => absent referenced⟩
    · rintro (⟨declared, _⟩ | referenced)
      · exact declared
      · exact valid.within index (Template.mem_referenced.mp referenced)
    · intro declared
      by_cases referenced : index ∈ method.template.referenced
      · exact .inr referenced
      · exact .inl ⟨declared, referenced⟩

def sparse : MethodDefinition := ⟨"sparse", "?2 \"?0?0\"".toList, [.string, .scalars, .strings]⟩

def sparseMethod : Method :=
  ⟨"sparse", sparse.query, ⟨[.placeholder 2, .literal " \"".toList, .placeholder 0, .placeholder 0,
    .literal "\"".toList]⟩, sparse.params⟩

theorem unusedParameters_make_no_difference_sparse :
    Method.compile sparse = .ok sparseMethod ∧ sparseMethod.unusedParameters = [1] ∧
    sparseMethod.createQuery [.null, .null, .list []] =
      sparseMethod.createQuery [.null, .integer 7, .list []] ∧
    ∃ first second : List Value, AgreeOff 0 first second ∧
      sparseMethod.createQuery first ≠ sparseMethod.createQuery second := by
  have cut : Template.pieces sparse.query =
      ([.placeholder ['2'], .literal " \"".toList, .placeholder ['0'], .placeholder ['0'],
        .literal "\"".toList], []) := by
    decide +kernel
  have compiled : Method.compile sparse = .ok sparseMethod := by
    rw [Method.compile, Template.parse, cut]
    rfl
  have unused : sparseMethod.unusedParameters = [1] := by decide +kernel
  obtain ⟨ignored, used, _⟩ := unusedParameters_make_no_difference compiled
  obtain ⟨first, second, _, _, agree, _, _, query, other, made, remade, differ⟩ :=
    used 0 (by decide) (by rw [unused]; decide)
  refine ⟨compiled, unused, ?_, first, second, agree, ?_⟩
  · have middle : 1 ∈ sparseMethod.unusedParameters := by
      rw [unused]
      exact List.mem_singleton_self 1
    refine (ignored 1 (by decide)).mp middle _ _ rfl rfl ?_
    intro position differ
    rcases position with _ | _ | position
    · rfl
    · exact absurd rfl differ
    · rfl
  · rw [made, remade]
    intro same
    exact differ (Except.ok.inj same)

end QueryTemplate
