import QueryTemplate.Format
import QueryTemplate.Typed.DataType

/-! Binding a datum and embedding it.

Both find a value along the type of the datum, by recursions of their own that go through different
types and collect items in different ways. Where both are there, they find the same value.
-/

set_option autoImplicit false

namespace QueryTemplate

/-- Embedding gives the values that are bound, to the bit. -/
def Bindable.Matches {α : Type} (binds : Bindable α) (embeds : Embedding α) : Prop :=
  ∀ x, binds.toValue x = embeds.embed x

namespace Bindable.Matches

variable {α : Type}

theorem option {binds : Bindable α} {embeds : Embedding α} (inner : binds.Matches embeds) :
    (@Bindable.option α binds).Matches (@Embedding.option α embeds) := by
  intro x
  cases x with
  | none => rfl
  | some x => exact inner x

section

variable {item : BindableItem α} {embeds : Embedding α} (each : item.toBindable.Matches embeds)

include each

theorem map_toValue (xs : List α) : xs.map item.toValue = xs.map embeds.embed :=
  List.map_congr_left fun x _ => each x

/-- Collecting from the last item on keeps the order of the items. -/
theorem list_eq_collect (xs : List α) : .list (xs.map item.toValue) = @Embedding.collect α embeds xs := by
  rw [map_toValue each, Embedding.collect, ← List.map_eq_foldr]
  rfl

theorem list : (@Bindable.list α item).Matches (@Embedding.list α embeds) :=
  list_eq_collect each

theorem array : (@Bindable.array α item).Matches (@Embedding.array α embeds) := by
  intro xs
  show Value.list (xs.toList.map item.toValue) = .list (xs.map embeds.embed).toList
  rw [map_toValue each, Array.toList_map]

theorem vector (n : Nat) : (@Bindable.vector α n item).Matches (@Embedding.vector α n embeds) := by
  intro xs
  show Value.list (xs.toList.map item.toValue) = .list (xs.map embeds.embed).toList
  rw [map_toValue each, Vector.toList_map]

/-- The back of a queue is stored in reverse. -/
theorem queue : (@Bindable.queue α item).Matches (@Embedding.queue α embeds) := by
  intro xs
  show Value.list (xs.toArray.toList.map item.toValue) =
    .list (xs.dList.map embeds.embed ++ (xs.eList.map embeds.embed).reverse)
  have stored : xs.toArray.toList = xs.dList ++ xs.eList.reverse := by
    simp [Std.Queue.toArray]
  rw [map_toValue each, stored, List.map_append, List.map_reverse]

theorem set (order : α → α → Ordering) :
    (@Bindable.set α order item).Matches (@Embedding.set α order embeds) :=
  fun xs => list_eq_collect each xs.toList

end

end Bindable.Matches

namespace DataType

/-! ## Along the type -/

/-- Instances made of others match if they do whenever they are made of matching ones. -/
theorem matches_of_map {α β γ : Type} {first : Option β} {second : Option γ}
    {bind : β → Bindable α} {embed : γ → Embedding α} {binds : Bindable α} {embeds : Embedding α}
    (each : ∀ item held, first = some item → second = some held →
      (bind item).Matches (embed held))
    (bound : first.map bind = some binds) (embedded : second.map embed = some embeds) :
    binds.Matches embeds := by
  obtain ⟨item, found, rfl⟩ := Option.map_eq_some_iff.mp bound
  obtain ⟨held, given, rfl⟩ := Option.map_eq_some_iff.mp embedded
  exact each item held found given

variable {t : DataType}

theorem item_matches {item : BindableItem t.carrier} {embeds : Embedding t.carrier}
    (bound : t.item? = some item) (embedded : t.embedding? = some embeds) :
    item.toBindable.Matches embeds := by
  induction t with
  | shared t => cases embedded
  | optional t ih =>
    obtain ⟨inner, found, rfl⟩ := Option.map_eq_some_iff.mp bound
    obtain ⟨held, given, rfl⟩ := Option.map_eq_some_iff.mp embedded
    exact (ih found given).option
  | list | array | vector | queue | set => cases bound
  | _ =>
    obtain rfl := Option.some.inj bound
    obtain rfl := Option.some.inj embedded
    exact fun _ => rfl

theorem bindable_matches {binds : Bindable t.carrier} {embeds : Embedding t.carrier}
    (bound : t.bindable? = some binds) (embedded : t.embedding? = some embeds) :
    binds.Matches embeds := by
  induction t with
  | shared t => cases embedded
  | optional t ih =>
    exact matches_of_map (fun _ _ found given => (ih found given).option) bound embedded
  | list t =>
    exact matches_of_map (fun _ _ found given => .list (item_matches found given)) bound embedded
  | array t =>
    exact matches_of_map (fun _ _ found given => .array (item_matches found given)) bound embedded
  | vector n t =>
    exact matches_of_map (fun _ _ found given => .vector (item_matches found given) n) bound embedded
  | queue t =>
    exact matches_of_map (fun _ _ found given => .queue (item_matches found given)) bound embedded
  | set t =>
    exact matches_of_map (fun _ _ found given => .set (item_matches found given) t.domain.order)
      bound embedded
  | _ =>
    obtain ⟨item, found, rfl⟩ := Option.map_eq_some_iff.mp bound
    exact item_matches found embedded

/-! ## Types that have both -/

/-- Data without items, under any number of options. -/
def Elementary : DataType → Prop
  | optional t => t.Elementary
  | shared _ | list _ | array _ | vector _ _ | queue _ | set _ => False
  | _ => True

/-- Data without items and collections of such, under any number of options. -/
def TwoWay : DataType → Prop
  | optional t => t.TwoWay
  | list t | array t | vector _ t | queue t | set t => t.Elementary
  | shared _ => False
  | _ => True

/-- Whether instances are made of others depends on those only. -/
theorem isSome_map_and {α β γ δ : Type} {first : Option α} {second : Option β} {make : α → γ}
    {form : β → δ} :
    (first.map make).isSome ∧ (second.map form).isSome ↔ first.isSome ∧ second.isSome := by
  rw [Option.isSome_map, Option.isSome_map]

theorem elementary_iff (t : DataType) : t.item?.isSome ∧ t.embedding?.isSome ↔ t.Elementary := by
  induction t with
  | shared t => simp [embedding?, Elementary]
  | optional t ih => exact isSome_map_and.trans ih
  | list | array | vector | queue | set => simp [item?, Elementary]
  | _ => simp [item?, embedding?, Elementary]

theorem twoWay_iff (t : DataType) : t.bindable?.isSome ∧ t.embedding?.isSome ↔ t.TwoWay := by
  induction t with
  | shared t => simp [embedding?, TwoWay]
  | optional t ih => exact isSome_map_and.trans ih
  | list t | array t | vector n t | queue t | set t => exact isSome_map_and.trans (elementary_iff t)
  | _ => simp [bindable?, item?, embedding?, TwoWay]

end DataType

/-- The two ways from typed data to values agree. They are both there for the types that are built
of options, of one collection and of data without items, and then a datum is bound as the value that
it is embedded as, with the same fragment or error. -/
theorem binding_agrees_with_embedding (t : DataType) :
    (t.bindable?.isSome ∧ t.embedding?.isSome ↔ t.TwoWay) ∧
    ∀ (binds : Bindable t.carrier) (embeds : Embedding t.carrier),
      t.bindable? = some binds → t.embedding? = some embeds → ∀ x : t.carrier,
        binds.toValue x = @Value.of _ embeds x ∧
        @Argument.of _ binds x = ⟨binds.kind, @Value.of _ embeds x⟩ ∧
        (@Argument.of _ binds x).format = (@Value.of _ embeds x).format binds.kind := by
  refine ⟨t.twoWay_iff, ?_⟩
  intro binds embeds bound embedded x
  have same : binds.toValue x = @Value.of _ embeds x := DataType.bindable_matches bound embedded x
  have argument : @Argument.of _ binds x = ⟨binds.kind, @Value.of _ embeds x⟩ := by
    rw [← same]
    rfl
  exact ⟨same, argument, by rw [argument, Argument.format]⟩

def singlesType : DataType := .optional (.queue (.optional .single))

def fewSingles : singlesType.carrier :=
  some (Std.Queue.mk [some ⟨0x3dcccccd⟩, none] [some ⟨0x7fc00001⟩])

theorem binding_agrees_with_embedding_singles :
    ∃ (binds : Bindable singlesType.carrier) (embeds : Embedding singlesType.carrier),
      singlesType.bindable? = some binds ∧ singlesType.embedding? = some embeds ∧
      @Value.of _ embeds fewSingles =
        .list [.float ⟨0x7ff8000000000000⟩, .null, .float ⟨0x3fb999999999999a⟩] ∧
      binds.toValue fewSingles = @Value.of _ embeds fewSingles ∧
      @Argument.of _ binds fewSingles = ⟨.scalars, @Value.of _ embeds fewSingles⟩ ∧
      (@Argument.of _ binds fewSingles).format = .error (.element 1 .null) := by
  obtain ⟨same, argument, fragment⟩ :=
    (binding_agrees_with_embedding singlesType).2 _ _ rfl rfl fewSingles
  refine ⟨_, _, rfl, rfl, by decide +kernel, same, argument, fragment.trans ?_⟩
  rfl

end QueryTemplate
