import Mathlib.Data.List.Nodup
import Mathlib.Logic.Relation
import QueryTemplate.Proofs.Compilation
import QueryTemplate.Registry.Change

/-! Registries over their whole history.

A registry holds its methods twice, as a map and as a list of names. Every change comes down to
methods that are added one by one, each compiled and under a name of its own, so the two agree and
what is registered stays.
-/

set_option autoImplicit false

namespace QueryTemplate

namespace Registry

/-- The listed names are those of the map, each listed once, and under a name stands a compiled
method of that name. -/
structure Coherent (registry : Registry) : Prop where
  nodup : registry.order.Nodup
  mem_order : ∀ name, name ∈ registry.order ↔ name ∈ registry.methods
  named : ∀ name method, registry.get? name = some method → method.name = name
  compiled : ∀ name method, registry.get? name = some method → method.Compiled

/-- Names only come behind the others, and what was found under a name is found there still. -/
structure Extends (registry changed : Registry) : Prop where
  order : registry.order <+: changed.order
  get? : ∀ name ∈ registry.order, changed.get? name = registry.get? name

variable {registry changed : Registry} {method : Method} {definition : MethodDefinition}
  {definitions : List MethodDefinition} {error : DefinitionError}

theorem Extends.refl (registry : Registry) : registry.Extends registry :=
  ⟨List.prefix_refl _, fun _ _ => rfl⟩

theorem Extends.trans {later : Registry} (first : registry.Extends changed)
    (second : changed.Extends later) : registry.Extends later := by
  refine ⟨first.order.trans second.order, ?_⟩
  intro name member
  rw [second.get? name (first.order.subset member), first.get? name member]

/-! ## Adding one method -/

theorem insert_eq_ok_iff :
    registry.insert method = .ok changed ↔
      method.name ∉ registry.methods ∧
      changed = ⟨registry.methods.insert method.name method, registry.order ++ [method.name]⟩ := by
  have contains : registry.methods.contains method.name = true ↔ method.name ∈ registry.methods :=
    Std.TreeMap.contains_iff_mem
  by_cases taken : method.name ∈ registry.methods
  · simp [insert, contains.mpr taken, taken]
  · rw [insert, if_neg (contains.not.mpr taken), Except.ok.injEq]
    simp [taken, eq_comm]

theorem define_eq_ok_iff :
    registry.define definition = .ok changed ↔
      ∃ method, Method.compile definition = .ok method ∧ registry.insert method = .ok changed := by
  cases compiled : Method.compile definition <;> simp [define, compiled]

/-- What one step of any change does, if it does something. -/
def Adds (registry changed : Registry) : Prop :=
  ∃ method : Method, method.Compiled ∧ registry.insert method = .ok changed

theorem adds_of_define (defined : registry.define definition = .ok changed) :
    registry.Adds changed := by
  obtain ⟨method, compiled, inserted⟩ := define_eq_ok_iff.mp defined
  exact ⟨method, .of_compile compiled, inserted⟩

theorem get?_of_insert (inserted : registry.insert method = .ok changed) (name : String) :
    changed.get? name = if method.name = name then some method else registry.get? name := by
  obtain ⟨_, rfl⟩ := insert_eq_ok_iff.mp inserted
  simp [get?, Std.TreeMap.getElem?_insert]

theorem mem_methods_of_insert (inserted : registry.insert method = .ok changed) (name : String) :
    name ∈ changed.methods ↔ name = method.name ∨ name ∈ registry.methods := by
  obtain ⟨_, rfl⟩ := insert_eq_ok_iff.mp inserted
  rw [Std.TreeMap.mem_insert, Std.LawfulEqCmp.compare_eq_iff_eq, eq_comm]

theorem coherent_empty : empty.Coherent where
  nodup := List.nodup_nil
  mem_order := by simp [empty]
  named := by simp [empty, get?]
  compiled := by simp [empty, get?]

namespace Coherent

theorem isSome_get?_iff (coherent : registry.Coherent) {name : String} :
    (registry.get? name).isSome ↔ name ∈ registry.order := by
  rw [coherent.mem_order, Std.TreeMap.mem_iff_isSome_getElem?]
  rfl

theorem of_insert (coherent : registry.Coherent) (compiled : method.Compiled)
    (inserted : registry.insert method = .ok changed) : changed.Coherent := by
  have found := get?_of_insert inserted
  have held := mem_methods_of_insert inserted
  obtain ⟨fresh, rfl⟩ := insert_eq_ok_iff.mp inserted
  have unlisted : method.name ∉ registry.order := by rwa [coherent.mem_order]
  refine ⟨?_, ?_, ?_, ?_⟩
  · exact (List.perm_append_singleton _ _).nodup_iff.mpr
      (List.nodup_cons.mpr ⟨unlisted, coherent.nodup⟩)
  · intro name
    rw [List.mem_append, List.mem_singleton, coherent.mem_order, held, or_comm]
  · intro name other held
    rw [found] at held
    split at held
    next same => exact Option.some.inj held ▸ same
    next => exact coherent.named name other held
  · intro name other held
    rw [found] at held
    split at held
    next => exact Option.some.inj held ▸ compiled
    next => exact coherent.compiled name other held

theorem extends_of_insert (coherent : registry.Coherent)
    (inserted : registry.insert method = .ok changed) : registry.Extends changed := by
  have found := get?_of_insert inserted
  obtain ⟨fresh, rfl⟩ := insert_eq_ok_iff.mp inserted
  refine ⟨List.prefix_append _ _, ?_⟩
  intro name member
  have other : method.name ≠ name := by
    rintro rfl
    exact fresh ((coherent.mem_order _).mp member)
  rw [found, if_neg other]

end Coherent

/-! ## What changes come down to -/

theorem load_append {before rest : List MethodDefinition}
    (defined : before.foldlM define registry = .ok changed) :
    registry.load (before ++ rest) = changed.load rest := by
  induction before generalizing registry with
  | nil =>
    obtain rfl := Except.ok.inj defined
    rfl
  | cons definition before ih =>
    cases next : registry.define definition with
    | error error => simp [next, bind, Except.bind] at defined
    | ok reached =>
      have later : before.foldlM define reached = .ok changed := by
        simpa [next, bind, Except.bind] using defined
      simp [load, next, ih later]

/-- Either all declarations are defined one by one, or the first that cannot be ends the loading. -/
theorem load_cases (registry : Registry) (definitions : List MethodDefinition) :
    (∃ changed, definitions.foldlM define registry = .ok changed ∧
      registry.load definitions = (changed, .ok ())) ∨
    ∃ before definition after changed error, definitions = before ++ definition :: after ∧
      before.foldlM define registry = .ok changed ∧ changed.define definition = .error error ∧
      registry.load definitions = (changed, .error error) := by
  induction definitions generalizing registry with
  | nil => exact .inl ⟨registry, rfl, rfl⟩
  | cons definition rest ih =>
    cases next : registry.define definition with
    | error error =>
      exact .inr ⟨[], definition, rest, registry, error, rfl, rfl, next, by simp [load, next]⟩
    | ok reached =>
      rcases ih reached with
        ⟨changed, defined, loaded⟩ | ⟨before, failing, after, changed, error, rfl, defined, failed, loaded⟩
      · exact .inl ⟨changed, by simpa [next, bind, Except.bind] using defined,
          by simpa [load, next] using loaded⟩
      · exact .inr ⟨definition :: before, failing, after, changed, error, rfl,
          by simpa [next, bind, Except.bind] using defined, failed,
          by simpa [load, next] using loaded⟩

theorem load_eq_error_iff :
    registry.load definitions = (changed, .error error) ↔
      ∃ before definition after, definitions = before ++ definition :: after ∧
        before.foldlM define registry = .ok changed ∧ changed.define definition = .error error := by
  constructor
  · intro failed
    rcases load_cases registry definitions with
      ⟨reached, _, loaded⟩ | ⟨before, definition, after, reached, fault, split, defined, refused, loaded⟩
    · rw [loaded] at failed
      cases failed
    · rw [loaded] at failed
      cases failed
      exact ⟨before, definition, after, split, defined, refused⟩
  · rintro ⟨before, definition, after, rfl, defined, refused⟩
    rw [load_append defined]
    simp [load, refused]

/-- Methods are inserted when they are compiled. -/
def Change.Compiled : Change → Prop
  | insert method => ∃ definition, Method.compile definition = .ok method
  | _ => True

/-- The declarations that a change defines, one by one. A compiled method stands for its own. -/
inductive Change.Declares (read : FileReader) : Change → List MethodDefinition → Prop where
  | insert {method : Method} (compiled : method.Compiled) :
    Declares read (.insert method) [method.declaration]
  | define (definition : MethodDefinition) : Declares read (.define definition) [definition]
  | load (definitions : List MethodDefinition) : Declares read (.load definitions) definitions
  | loadJson {text : Text} {repository : RepositoryDefinition}
    (parsed : RepositoryDefinition.ofJsonText text = .ok repository) :
    Declares read (.loadJson text) repository.methods
  | loadFile {path : String} {text : Text} {repository : RepositoryDefinition}
    (present : read path = .ok text)
    (parsed : RepositoryDefinition.ofJsonText text = .ok repository) :
    Declares read (.loadFile path) repository.methods

theorem load_singleton (registry : Registry) (definition : MethodDefinition) :
    registry.load [definition] = registry.keep (registry.define definition) := by
  cases defined : registry.define definition <;> simp [load, keep, defined]

theorem apply_of_declares {read : FileReader} {change : Change}
    (declares : change.Declares read definitions) (registry : Registry) :
    registry.apply read change = registry.load definitions := by
  cases declares with
  | insert compiled =>
    rw [load_singleton, define, Method.compile_declaration compiled]
    rfl
  | define definition => exact (load_singleton registry definition).symm
  | load => rfl
  | loadJson parsed => simp [apply, loadJson, parsed]
  | loadFile present parsed => simp [apply, loadFile, loadJson, present, parsed]

inductive Unreadable : DefinitionError → Prop where
  | json (source : Json.Error) : Unreadable (.json source)
  | io (path : String) (source : ReadError) : Unreadable (.io path source)

theorem not_unreadable_of_define (failed : registry.define definition = .error error) :
    ¬ Unreadable error := by
  intro unreadable
  cases compiled : Method.compile definition with
  | error source =>
    obtain rfl : .compile source = error := by simpa [define, compiled] using failed
    cases unreadable
  | ok method =>
    cases taken : registry.methods.contains method.name with
    | true =>
      obtain rfl : .duplicateMethod method.name = error := by
        simpa [define, compiled, insert, taken] using failed
      cases unreadable
    | false => simp [define, compiled, insert, taken] at failed

theorem apply_cases (read : FileReader) (registry : Registry) {change : Change}
    (compiled : change.Compiled) :
    (∃ definitions, change.Declares read definitions) ∨
      ∃ error, Unreadable error ∧ registry.apply read change = (registry, .error error) := by
  cases change with
  | insert method =>
    obtain ⟨definition, compiled⟩ := compiled
    exact .inl ⟨_, .insert (.of_compile compiled)⟩
  | define definition => exact .inl ⟨_, .define definition⟩
  | load definitions => exact .inl ⟨_, .load definitions⟩
  | loadJson text =>
    cases parsed : RepositoryDefinition.ofJsonText text with
    | ok repository => exact .inl ⟨_, .loadJson parsed⟩
    | error source => exact .inr ⟨_, .json source, by simp [apply, loadJson, parsed]⟩
  | loadFile path =>
    cases present : read path with
    | error source => exact .inr ⟨_, .io path source, by simp [apply, loadFile, present]⟩
    | ok text =>
      cases parsed : RepositoryDefinition.ofJsonText text with
      | ok repository => exact .inl ⟨_, .loadFile present parsed⟩
      | error source =>
        exact .inr ⟨_, .json source, by simp [apply, loadFile, loadJson, present, parsed]⟩

theorem load_grows (registry : Registry) (definitions : List MethodDefinition) :
    Relation.ReflTransGen Adds registry (registry.load definitions).1 := by
  induction definitions generalizing registry with
  | nil => exact .refl
  | cons definition rest ih =>
    cases defined : registry.define definition with
    | error error =>
      rw [load, defined]
    | ok reached =>
      rw [load, defined]
      exact .head (adds_of_define defined) (ih reached)

theorem apply_grows (read : FileReader) (registry : Registry) {change : Change}
    (compiled : change.Compiled) :
    Relation.ReflTransGen Adds registry (registry.apply read change).1 := by
  rcases apply_cases read registry compiled with ⟨definitions, declares⟩ | ⟨error, _, failed⟩
  · rw [apply_of_declares declares]
    exact load_grows registry definitions
  · rw [failed]

theorem Coherent.of_grows (coherent : registry.Coherent)
    (grows : Relation.ReflTransGen Adds registry changed) :
    changed.Coherent ∧ registry.Extends changed := by
  induction grows with
  | refl => exact ⟨coherent, .refl registry⟩
  | tail _ adds ih =>
    obtain ⟨reached, extended⟩ := ih
    obtain ⟨method, compiled, inserted⟩ := adds
    exact ⟨reached.of_insert compiled inserted, extended.trans (reached.extends_of_insert inserted)⟩

/-- One change. The files need not be those of the change before. -/
inductive Step : Registry → Registry → Prop where
  | apply (registry : Registry) (read : FileReader) {change : Change} (compiled : change.Compiled) :
    Step registry (registry.apply read change).1

/-- Any number of changes, one after the other, whether or not they succeed. -/
abbrev Reaches : Registry → Registry → Prop := Relation.ReflTransGen Step

theorem reaches_run (registry : Registry) (read : FileReader) {changes : List Change}
    (compiled : ∀ change ∈ changes, change.Compiled) :
    registry.Reaches (registry.run read changes) := by
  induction changes generalizing registry with
  | nil => exact .refl
  | cons change rest ih =>
    have first : registry.Step (registry.apply read change).1 :=
      .apply registry read (compiled change List.mem_cons_self)
    exact .head first (ih _ fun later member => compiled later (List.mem_cons_of_mem change member))

theorem Reaches.grows (reaches : registry.Reaches changed) :
    Relation.ReflTransGen Adds registry changed := by
  induction reaches with
  | refl => exact .refl
  | tail _ step ih =>
    cases step with
    | apply read compiled => exact ih.trans (apply_grows read _ compiled)

theorem Reaches.coherent (reached : Registry.empty.Reaches registry) : registry.Coherent :=
  (coherent_empty.of_grows reached.grows).1

/-! ## What the listings say -/

/-- The listings and the counts of a registry agree. -/
structure Listed (registry : Registry) : Prop where
  size : registry.size = registry.order.length
  isEmpty : registry.isEmpty = registry.order.isEmpty
  names : registry.toList.map Method.name = registry.order
  once : registry.toList.Nodup
  found : registry.toList.map some = registry.order.map registry.get?
  mem_toList : ∀ method, method ∈ registry.toList ↔ ∃ name, registry.get? name = some method

namespace Coherent

theorem map_some_toList (coherent : registry.Coherent) :
    registry.toList.map some = registry.order.map registry.get? := by
  have present : ∀ name ∈ registry.order, (registry.get? name).isSome :=
    fun name member => coherent.isSome_get?_iff.mpr member
  rw [toList]
  generalize registry.order = order at present
  induction order with
  | nil => rfl
  | cons name order ih =>
    obtain ⟨method, held⟩ := Option.isSome_iff_exists.mp (present name List.mem_cons_self)
    have later := ih fun other member => present other (List.mem_cons_of_mem name member)
    simp [held, later]

theorem mem_toList_iff (coherent : registry.Coherent) {method : Method} :
    method ∈ registry.toList ↔ ∃ name, registry.get? name = some method := by
  rw [toList, List.mem_filterMap]
  constructor
  · rintro ⟨name, _, held⟩
    exact ⟨name, held⟩
  · rintro ⟨name, held⟩
    exact ⟨name, coherent.isSome_get?_iff.mp (by simp [held]), held⟩

theorem map_name_toList (coherent : registry.Coherent) :
    registry.toList.map Method.name = registry.order := by
  have found := congrArg (List.map (Option.map Method.name)) coherent.map_some_toList
  apply List.map_injective_iff.mpr fun _ _ => Option.some.inj
  calc (registry.toList.map Method.name).map some
      = (registry.toList.map some).map (Option.map Method.name) := by simp
    _ = (registry.order.map registry.get?).map (Option.map Method.name) := found
    _ = registry.order.map some := by
      rw [List.map_map]
      apply List.map_congr_left
      intro name member
      obtain ⟨method, held⟩ := Option.isSome_iff_exists.mp (coherent.isSome_get?_iff.mpr member)
      simp [held, coherent.named name method held]

theorem toList_of_insert (coherent : registry.Coherent)
    (inserted : registry.insert method = .ok changed) :
    changed.toList = registry.toList ++ [method] := by
  have found := get?_of_insert inserted
  have extended := coherent.extends_of_insert inserted
  obtain ⟨_, rfl⟩ := insert_eq_ok_iff.mp inserted
  rw [toList, List.filterMap_append, List.filterMap_congr extended.get?]
  simp [toList, found]

theorem size_eq (coherent : registry.Coherent) : registry.size = registry.order.length := by
  have same : registry.methods.keys.Perm registry.order := by
    rw [List.perm_ext_iff_of_nodup Std.TreeMap.nodup_keys coherent.nodup]
    intro name
    rw [Std.TreeMap.mem_keys, coherent.mem_order]
  rw [size, ← Std.TreeMap.length_keys, same.length_eq]

theorem listed (coherent : registry.Coherent) : registry.Listed where
  size := coherent.size_eq
  isEmpty := by
    rw [isEmpty, Std.TreeMap.isEmpty_eq_size_eq_zero]
    have counted := coherent.size_eq
    rw [size] at counted
    rw [counted]
    cases registry.order <;> rfl
  names := coherent.map_name_toList
  once := List.Nodup.of_map Method.name (coherent.map_name_toList ▸ coherent.nodup)
  found := coherent.map_some_toList
  mem_toList _ := coherent.mem_toList_iff

end Coherent

theorem keep_of_error {attempt : Except DefinitionError Registry}
    (failed : (registry.keep attempt).2 = .error error) : (registry.keep attempt).1 = registry := by
  cases attempt with
  | error _ => rfl
  | ok _ => cases failed

theorem apply_of_unreadable {read : FileReader} {change : Change} (compiled : change.Compiled)
    (unreadable : Unreadable error) (failed : (registry.apply read change).2 = .error error) :
    (registry.apply read change).1 = registry := by
  rcases apply_cases read registry compiled with ⟨definitions, declares⟩ | ⟨other, _, unread⟩
  · -- What could be read fails for another reason, if it fails.
    have loaded : registry.load definitions = ((registry.apply read change).1, .error error) := by
      rw [← apply_of_declares declares registry, ← failed]
    obtain ⟨_, _, _, _, _, refused⟩ := load_eq_error_iff.mp loaded
    exact absurd unreadable (not_unreadable_of_define refused)
  · rw [unread]

end Registry

/-- After any changes, successful or not, the map of a registry and its list of names agree and hold
compiled methods. Changes only add names behind those that are there. A failed registration changes
nothing; declarations that fail to load leave exactly those before the first that cannot be defined.
-/
theorem registry_keeps_history {registry : Registry} (reached : Registry.empty.Reaches registry) :
    registry.Coherent ∧ registry.Listed ∧
    (∀ later, registry.Reaches later → registry.Extends later) ∧
    (∀ read method error, (registry.apply read (.insert method)).2 = .error error →
      (registry.apply read (.insert method)).1 = registry) ∧
    (∀ read definition error, (registry.apply read (.define definition)).2 = .error error →
      (registry.apply read (.define definition)).1 = registry) ∧
    (∀ read (change : Registry.Change) error, change.Compiled → Registry.Unreadable error →
      (registry.apply read change).2 = .error error → (registry.apply read change).1 = registry) ∧
    (∀ read (change : Registry.Change) definitions, change.Declares read definitions →
      ∀ changed error, registry.apply read change = (changed, .error error) ↔
        ∃ before definition after, definitions = before ++ definition :: after ∧
          before.foldlM Registry.define registry = .ok changed ∧
          changed.define definition = .error error) := by
  refine ⟨reached.coherent, reached.coherent.listed, ?_, fun _ _ _ => Registry.keep_of_error,
    fun _ _ _ => Registry.keep_of_error, fun _ _ _ => Registry.apply_of_unreadable, ?_⟩
  · intro later reaches
    exact (reached.coherent.of_grows reaches.grows).2
  · intro read change definitions declares changed error
    rw [Registry.apply_of_declares declares]
    exact Registry.load_eq_error_iff

def troubledChanges : List Registry.Change :=
  [.insert greetingMethod, .define ⟨"lone", ['?', '1'], [.string]⟩,
    .load [⟨"one", ['?', '0', '?'], [.scalars]⟩, ⟨"greet", [], []⟩, ⟨"two", [], []⟩],
    .loadJson ['?'], .load [⟨"two", [], [.string]⟩, ⟨"two", [], []⟩], .loadFile "absent"]

def troubledRegistry : Registry :=
  Registry.empty.run (fun _ => .error .notFound) troubledChanges

theorem registry_keeps_history_troubled :
    Registry.empty.Reaches troubledRegistry ∧
    troubledRegistry.order = ["greet", "one", "two"] ∧
    troubledRegistry.Coherent ∧ troubledRegistry.Listed ∧
    (∀ later, troubledRegistry.Reaches later → troubledRegistry.Extends later) ∧
    troubledRegistry.apply (fun _ => .error .notFound)
        (.load [⟨"one", ['?', '1'], []⟩, ⟨"three", [], []⟩]) =
      (troubledRegistry, .error (.compile (.indexOutOfRange "one" 1 0))) := by
  have compiled : ∀ change ∈ troubledChanges, change.Compiled := by
    have inserted : ∃ definition, Method.compile definition = .ok greetingMethod :=
      ⟨_, compile_greeting⟩
    simpa [troubledChanges, Registry.Change.Compiled] using inserted
  have reached := Registry.reaches_run .empty (fun _ => .error .notFound) compiled
  obtain ⟨coherent, listed, extended, _, _, _, fails⟩ := registry_keeps_history reached
  have order : troubledRegistry.order = ["greet", "one", "two"] := by decide +kernel
  refine ⟨reached, order, coherent, listed, extended, ?_⟩
  have refused : troubledRegistry.define ⟨"one", ['?', '1'], []⟩ =
      .error (.compile (.indexOutOfRange "one" 1 0)) := by
    have cut : Template.pieces ['?', '1'] = ([.placeholder ['1']], []) := by decide +kernel
    rw [Registry.define, Method.compile, Template.parse, cut]
    rfl
  exact (fails _ _ _ (.load _) _ _).mpr ⟨[], _, _, rfl, rfl, refused⟩

end QueryTemplate
