import Mathlib.Data.List.TakeWhile
import QueryTemplate.Proofs.CommandLine

/-! A flag that is added to a command line.

The line is read twice, from a state and from the same state with the flag given before. Both
readings go on side by side: only the flag itself is refused when it is met again.
-/

set_option autoImplicit false

namespace QueryTemplate.Command

namespace Line

variable {σ : Type} {name : String} {set : σ → σ}

/-! ## Settings -/

/-- What is done to the settings does not depend on the flag and leaves it alone. -/
structure Apart (set : σ → σ) (f : σ → Except Refusal σ) : Prop where
  commutes : ∀ settings, f (set settings) = (f settings).map set
  noVersion : ∀ settings, f settings ≠ .error .versionAsked

theorem Apart.change {f : σ → σ} (commutes : ∀ settings, f (set settings) = set (f settings)) :
    Apart set fun settings => .ok (f settings) where
  commutes settings := congrArg Except.ok (commutes settings)
  noVersion settings same := by cases same

theorem Apart.ok : Apart set .ok := .change fun _ => rfl

theorem Apart.error {refusal : Refusal} (noVersion : refusal ≠ .versionAsked) :
    Apart set fun _ => .error refusal :=
  ⟨fun _ => rfl, fun _ same => noVersion (Except.error.inj same)⟩

theorem Apart.bind {f g : σ → Except Refusal σ} (first : Apart set f) (second : Apart set g) :
    Apart set fun settings => f settings >>= g where
  commutes settings := by
    rw [first.commutes]
    cases f settings with
    | error refusal => rfl
    | ok reached => exact second.commutes reached
  noVersion settings := by
    have asked := first.noVersion settings
    cases found : f settings with
    | error refusal => rwa [found] at asked
    | ok reached => exact second.noVersion reached

def flagRule (name : String) (short : Option Char) (set : σ → σ) : OptionRule σ :=
  ⟨name, short, .flag fun settings => .ok (set settings)⟩

/-- An option of a grammar with the flag: the flag itself or one that is apart from it. -/
inductive Ruled (name : String) (set : σ → σ) : OptionRule σ → Prop where
  | own (short : Option Char) : Ruled name set (flagRule name short set)
  | flag {long : String} (short : Option Char) {f : σ → Except Refusal σ} (other : long ≠ name)
    (apart : Apart set f) : Ruled name set ⟨long, short, .flag f⟩
  | value {long : String} (short : Option Char) (repeats : Bool)
    {f : σ → String → Except Refusal σ} (other : long ≠ name) (apart : ∀ word, Apart set (f · word)) :
    Ruled name set ⟨long, short, .value repeats f⟩

/-- A flag of a grammar, which may be set once more without effect. -/
structure FlagOf (grammar : Grammar σ) (name : String) (set : σ → σ) : Prop where
  noCommands : grammar.commands = []
  named : name.toList ≠ []
  plain : '=' ∉ name.toList
  again : ∀ settings, set (set settings) = set settings
  options : ∀ rule ∈ grammar.options, Ruled name set rule
  free : ∀ f, grammar.free = some f → ∀ word, Apart set (f · word)
  found : ∃ short, grammar.options.find? (·.long == name) = some (flagRule name short set)

/-! ## States -/

def State.flagged (name : String) (set : σ → σ) (s : State σ) : State σ :=
  { s with settings := set s.settings, seen := s.seen ++ [name] }

/-- An option that still has to be acted upon is one of a grammar with the flag. -/
inductive Pending.Sound (name : String) (set : σ → σ) : Pending σ → Prop where
  | nothing : Sound name set .nothing
  | option {rule : OptionRule σ} (ruled : Ruled name set rule) (value : Option String) :
    Sound name set (.option rule value)
  | free (words : List String) : Sound name set (.free words)

/-- How two readings go on from a state, the second one with the flag given before. -/
inductive Abreast (name : String) (set : σ → σ) (s : State σ) :
    Except Refusal (State σ) → Except Refusal (State σ) → Prop where
  | both {reached : State σ} (sound : reached.pending.Sound name set)
    (keeps : set s.settings = s.settings → set reached.settings = reached.settings) :
    Abreast name set s (.ok reached) (.ok (reached.flagged name set))
  | repeated {reached : State σ} {refusal : Refusal} (sound : reached.pending.Sound name set)
    (asked : set reached.settings = reached.settings) (noVersion : refusal ≠ .versionAsked) :
    Abreast name set s (.ok reached) (.error refusal)
  | refused {first second : Refusal} (noVersion : first ≠ .versionAsked)
    (neither : second ≠ .versionAsked) : Abreast name set s (.error first) (.error second)

def Parallel (name : String) (set : σ → σ) (step : State σ → Except Refusal (State σ)) : Prop :=
  ∀ s, s.pending.Sound name set → Abreast name set s (step s) (step (s.flagged name set))

variable {f g : State σ → Except Refusal (State σ)}

theorem Abreast.bind {s : State σ} {plain shown : Except Refusal (State σ)}
    (soFar : Abreast name set s plain shown) (next : Parallel name set g) :
    Abreast name set s (plain >>= g) (shown >>= g) := by
  cases soFar with
  | @both reached sound keeps =>
    have step := next reached sound
    change Abreast name set s (g reached) (g (reached.flagged name set))
    generalize g reached = plain, g (reached.flagged name set) = shown at step ⊢
    cases step with
    | both sound later => exact .both sound (later ∘ keeps)
    | repeated sound asked noVersion => exact .repeated sound asked noVersion
    | refused noVersion neither => exact .refused noVersion neither
  | @repeated reached refusal sound asked noVersion =>
    -- The second reading has ended; the first goes on and does not take the flag back.
    have step := next reached sound
    change Abreast name set s (g reached) (.error refusal)
    generalize g reached = plain, g (reached.flagged name set) = shown at step ⊢
    cases step with
    | both sound later => exact .repeated sound (later asked) noVersion
    | repeated sound again _ => exact .repeated sound again noVersion
    | refused first _ => exact .refused first noVersion
  | refused noVersion neither => exact .refused noVersion neither

theorem Parallel.bind (first : Parallel name set f) (second : Parallel name set g) :
    Parallel name set fun s => f s >>= g := fun s sound => (first s sound).bind second

theorem Parallel.error {refusal : Refusal} (noVersion : refusal ≠ .versionAsked) :
    Parallel name set fun _ => .error refusal := fun _ _ => .refused noVersion noVersion

theorem Parallel.ok : Parallel name set .ok := fun _ sound => .both sound id

theorem Parallel.pend {pending : Pending σ} (sound : pending.Sound name set) :
    Parallel name set fun s => .ok { s with pending } := fun _ _ => .both sound id

theorem Parallel.settings {f : σ → Except Refusal σ} (apart : Apart set f) :
    Parallel name set fun s => f s.settings >>= fun settings => .ok { s with settings } := by
  intro s sound
  simp only [State.flagged, apart.commutes]
  cases found : f s.settings with
  | error refusal =>
    have noVersion : refusal ≠ .versionAsked := fun same => apart.noVersion _ (same ▸ found)
    exact .refused noVersion noVersion
  | ok reached =>
    refine .both sound fun asked => ?_
    have same := apart.commutes s.settings
    rw [asked, found] at same
    exact (Except.ok.inj same).symm

/-- What stands in line is the same for both readings. -/
theorem Parallel.by_pending {f : Pending σ → State σ → Except Refusal (State σ)}
    (each : ∀ pending, pending.Sound name set → Parallel name set (f pending)) :
    Parallel name set fun s => f s.pending s :=
  fun s sound => each s.pending sound s sound

theorem ruled_of_wantsValue {s : State σ} {rule : OptionRule σ} (sound : s.pending.Sound name set)
    (wanted : s.wantsValue = some rule) : Ruled name set rule := by
  unfold State.wantsValue at wanted
  split at wanted
  next pending =>
    cases wanted
    rw [pending] at sound
    cases sound with
    | option ruled => exact ruled
  next => cases wanted

def flagWord (name : String) : String := "--" ++ name

/-! ## Steps -/

theorem parallel_note {rule : OptionRule σ} (other : rule.long ≠ name) (repeats : Bool) :
    Parallel name set (note · rule repeats) := by
  intro s sound
  have same : (s.flagged name set).seen.contains rule.long = s.seen.contains rule.long := by
    simp [State.flagged, other]
  simp only [note, same]
  split
  · exact .refused (by decide) (by decide)
  · exact .both sound id

theorem act_flagRule (s : State σ) (short : Option Char) (value : Option String) :
    act s (flagRule name short set) value =
      if s.seen.contains name then .error .conflict
      else .ok { s with settings := set s.settings, seen := name :: s.seen } := by
  by_cases seen : name ∈ s.seen <;> simp [act, note, flagRule, seen, Bind.bind, Except.bind]

theorem parallel_act (again : ∀ settings, set (set settings) = set settings) {rule : OptionRule σ}
    (ruled : Ruled name set rule) (value : Option String) : Parallel name set (act · rule value) := by
  cases ruled with
  | own short =>
    intro s sound
    have met : (s.flagged name set).seen.contains name := by simp [State.flagged]
    simp only [act_flagRule, met, if_true]
    split
    · exact .refused (by decide) (by decide)
    · exact .repeated sound (again s.settings) (by decide)
  | flag short other apart => exact (parallel_note other false).bind (.settings apart)
  | value short repeats other apart =>
    cases value with
    | none => exact .error (by decide)
    | some word => exact (parallel_note other repeats).bind (.settings (apart word))

variable {grammar : Grammar σ}

def reached (grammar : Grammar σ) (words : List String) (s : State σ) : Except Refusal (State σ) :=
  (take grammar s words).map Prod.fst

theorem run_map_fst (grammar : Grammar σ) (settings : σ) (words : List String) :
    (run grammar settings words).map Prod.fst =
      reached grammar words { settings } >>= settle grammar := by
  unfold run reached
  cases take grammar { settings } words with
  | error refusal => rfl
  | ok result =>
    change Except.map Prod.fst (settle grammar result.1 >>= _) = settle grammar result.1
    cases settle grammar result.1 <;> rfl

section

variable (flag : FlagOf grammar name set)
include flag

theorem apart_actFree (words : List String) : Apart set (actFree grammar · words) := by
  induction words with
  | nil => exact .ok
  | cons word words ih =>
    simp only [actFree]
    split
    next => exact .error (by decide)
    next take free => exact (flag.free take free word).bind ih

theorem parallel_settle_pending {pending : Pending σ} (sound : pending.Sound name set) :
    Parallel name set fun s => settle grammar { s with pending } := by
  have cleared : Parallel name set fun s => .ok { s with pending := .nothing } := .pend .nothing
  cases sound with
  | nothing => exact cleared
  | option ruled value => exact cleared.bind (parallel_act flag.again ruled value)
  | free words =>
    have acted : Parallel name set fun s =>
        actFree grammar s.settings words >>= fun settings => .ok { s with settings } :=
      .settings (apart_actFree flag words)
    exact cleared.bind acted

theorem parallel_settle : Parallel name set (settle grammar) :=
  Parallel.by_pending (f := fun pending s => settle grammar { s with pending })
    fun _ => parallel_settle_pending flag

theorem parallel_takeOption {rule : OptionRule σ} (ruled : Ruled name set rule)
    (attached : Option String) : Parallel name set (takeOption grammar · rule attached) := by
  refine (parallel_settle flag).bind ?_
  have acted := parallel_act flag.again ruled attached
  split
  next => exact .pend (.option ruled none)
  next => exact acted

theorem ruled_of_find? {known : OptionRule σ → Bool} {rule : OptionRule σ}
    (found : grammar.options.find? known = some rule) : Ruled name set rule :=
  flag.options rule (List.mem_of_find?_eq_some found)

theorem parallel_takeLong (word : Text) : Parallel name set (takeLong grammar · word) := by
  unfold takeLong
  dsimp only
  split
  next => exact .error (by decide)
  next rule found =>
    have taken := parallel_takeOption flag (ruled_of_find? flag found)
    split
    next => exact .error (by decide)
    next => exact taken _

theorem parallel_takeShort (letters : Text) : Parallel name set (takeShort grammar · letters) := by
  induction letters with
  | nil => exact .ok
  | cons c rest ih =>
    unfold takeShort
    split
    next => exact .error (by decide)
    next rule found =>
      have taken := parallel_takeOption flag (ruled_of_find? flag found)
      split
      next => exact (taken none).bind ih
      next => exact taken _

theorem parallel_takeFree (word : String) : Parallel name set (takeFree grammar · word) := by
  refine Parallel.by_pending (f := fun pending s => takeFree grammar { s with pending } word) ?_
  intro pending sound
  cases free : grammar.free with
  | none =>
    simp only [takeFree, free]
    exact .error (by decide)
  | some take =>
    have started := (parallel_settle_pending flag sound).bind (.pend (.free [word]))
    cases sound with
    | free words =>
      simp only [takeFree, free]
      exact .pend (.free (words ++ [word]))
    | nothing | option =>
      simp only [takeFree, free]
      exact started

theorem parallel_foldlM_takeFree (words : List String) :
    Parallel name set (words.foldlM (takeFree grammar)) := by
  induction words with
  | nil => exact .ok
  | cons word words ih => exact (parallel_takeFree flag word).bind ih

theorem parallel_reached (words : List String) : Parallel name set (reached grammar words) := by
  induction words with
  | nil => exact .ok
  | cons word words ih =>
    have onwards : ∀ result : Except Refusal (State σ),
        (result >>= fun s => take grammar s words).map Prod.fst = result >>= reached grammar words := by
      intro result
      cases result <;> rfl
    have ends : ∀ result : Except Refusal (State σ),
        (result >>= fun s => .ok (s, (none : Option (String × List String)))).map Prod.fst = result := by
      intro result
      cases result <;> rfl
    intro s sound
    have noCommand : ∀ s : State σ, ¬ (s.wantsValue.isNone ∧ grammar.commands.contains word) := by
      simp [flag.noCommands]
    simp only [reached, take, if_neg (noCommand _)]
    split
    next =>
      simp only [ends]
      exact parallel_foldlM_takeFree flag words s sound
    next =>
      simp only [onwards]
      exact (parallel_takeLong flag _).bind ih s sound
    next =>
      simp only [onwards]
      exact (parallel_takeShort flag _).bind ih s sound
    next =>
      have same : (s.flagged name set).wantsValue = s.wantsValue := rfl
      rw [same]
      split
      next rule wanted =>
        have waiting : Ruled name set rule := ruled_of_wantsValue sound wanted
        have given : Parallel name set fun s => .ok { s with pending := .option rule (some word) } :=
          .pend (.option waiting (some word))
        exact given.bind ih s sound
      next =>
        simp only [onwards]
        exact (parallel_takeFree flag word).bind ih s sound

theorem takeLong_flag {s : State σ} (settled : s.pending = .nothing) (fresh : name ∉ s.seen) :
    takeLong grammar s name.toList =
      .ok { s with settings := set s.settings, seen := name :: s.seen } := by
  obtain ⟨short, found⟩ := flag.found
  have letters : ∀ c ∈ name.toList, c ≠ '=' := fun c member => ne_of_mem_of_not_mem member flag.plain
  have whole : name.toList.takeWhile (· ≠ '=') = name.toList := by
    simpa [List.takeWhile_eq_self_iff] using letters
  have nothing : name.toList.dropWhile (· ≠ '=') = [] := by
    simpa [List.dropWhile_eq_nil_iff] using letters
  have acted : takeOption grammar s (flagRule name short set) none =
      .ok { s with settings := set s.settings, seen := name :: s.seen } := by
    have done : act s (flagRule name short set) none = _ := act_flagRule s short none
    rw [if_neg (by simpa using fresh)] at done
    rw [← done]
    simp only [takeOption, settle, settled, Bind.bind, Except.bind]
    rfl
  simp only [takeLong, whole, nothing, String.ofList_toList, found]
  exact acted

theorem take_flagWord {s : State σ} (settled : s.pending = .nothing) (fresh : name ∉ s.seen)
    (words : List String) :
    take grammar s (flagWord name :: words) =
      take grammar { s with settings := set s.settings, seen := name :: s.seen } words := by
  have written : (flagWord name).toList = '-' :: '-' :: name.toList := by simp [flagWord]
  obtain ⟨c, letters, spelled⟩ := List.exists_cons_of_ne_nil flag.named
  have taken := takeLong_flag flag settled fresh
  rw [spelled] at written taken
  rw [take, if_neg (by simp [flag.noCommands]), written]
  simp only [taken]
  rfl

theorem reached_flagWord (settings : σ) (words : List String) :
    reached grammar (flagWord name :: words) { settings } =
      reached grammar words (State.flagged name set { settings }) := by
  rw [reached, take_flagWord flag rfl List.not_mem_nil]
  rfl

end

/-! ## Lines -/

/-- A line that does not ask for a flag is read with the flag in front as it is read without, except
that the flag is set. -/
theorem FlagOf.abreast (flag : FlagOf grammar name set) (settings : σ) (words : List String) :
    Abreast name set { settings } ((run grammar settings words).map Prod.fst)
      ((run grammar settings (flagWord name :: words)).map Prod.fst) := by
  rw [run_map_fst, run_map_fst, reached_flagWord flag]
  exact (parallel_reached flag words).bind (parallel_settle flag) { settings } .nothing

/-- What is made of a line, and what is made of it with the flag in front. -/
inductive Added {τ : Type} (flag : τ → τ) : Except Refusal τ → Except Refusal τ → Prop where
  | both (made : τ) : Added flag (.ok made) (.ok (flag made))
  | repeated {made : τ} {refusal : Refusal} (asked : flag made = made)
    (noVersion : refusal ≠ .versionAsked) : Added flag (.ok made) (.error refusal)
  | refused {first second : Refusal} (noVersion : first ≠ .versionAsked)
    (neither : second ≠ .versionAsked) : Added flag (.error first) (.error second)

theorem Abreast.added {τ : Type} {flag : τ → τ} {f : State σ → Except Refusal τ} {s : State σ}
    {plain shown : Except Refusal (State σ)} (abreast : Abreast name set s plain shown)
    (commutes : ∀ s, f (s.flagged name set) = (f s).map flag)
    (keeps : ∀ s made, set s.settings = s.settings → f s = .ok made → flag made = made)
    (noVersion : ∀ s, f s ≠ .error .versionAsked) : Added flag (plain >>= f) (shown >>= f) := by
  cases abreast with
  | @both reached _ _ =>
    change Added flag (f reached) (f (reached.flagged name set))
    rw [commutes]
    cases made : f reached with
    | error refusal =>
      have other : refusal ≠ .versionAsked := fun same => noVersion reached (same ▸ made)
      exact .refused other other
    | ok result => exact .both result
  | @repeated reached refusal _ asked other =>
    change Added flag (f reached) (.error refusal)
    cases made : f reached with
    | error first => exact .refused (fun same => noVersion reached (same ▸ made)) other
    | ok result => exact .repeated (keeps reached result asked made) other
  | refused other neither => exact .refused other neither

end Line

/-! ## Commands -/

namespace Request

def json : Request → Bool
  | bind options => options.json
  | check options => options.json
  | invoke options => options.json

end Request

theorem Line.Apart.path {σ : Type} {set : σ → σ} {f : σ → String → σ}
    (commutes : ∀ settings word, f (set settings) word = set (f settings word)) (word : String) :
    Apart set fun settings => (do .ok (f settings (← pathWord word))) := by
  unfold pathWord
  split
  · exact .error (by decide)
  · exact .change fun settings => commutes settings word

/-- The options that every command understands are apart from flags of other names. -/
theorem ruled_withEverywhere {σ : Type} {grammar : Grammar σ} {name : String} {set : σ → σ}
    (noColor : "color" ≠ name) (noVerbose : "verbose" ≠ name)
    (own : ∀ rule ∈ grammar.options, Line.Ruled name set rule) :
    ∀ rule ∈ grammar.withEverywhere.options, Line.Ruled name set rule := by
  refine List.forall_mem_append.mpr ⟨own, ?_⟩
  simp only [everywhere, List.forall_mem_cons]
  refine ⟨.value none false noColor fun word => ?_, .flag (some 'v') noVerbose .ok, by simp⟩
  split
  · exact .ok
  · exact .error (by decide)

theorem BindOptions.jsonFlag :
    Line.FlagOf grammar.withEverywhere "json" fun given : Given => { given with json := true } where
  noCommands := rfl
  named := by decide
  plain := by decide
  again _ := rfl
  options := by
    refine ruled_withEverywhere (by decide) (by decide) ?_
    simp only [grammar, List.forall_mem_cons]
    refine ⟨.value none false (by decide) fun word => .change fun _ => rfl,
      .value (some 'a') true (by decide) fun word => ?_, .own none, by simp⟩
    split
    · exact .error fun same => by cases same
    · exact .change fun _ => rfl
  free _ same := by cases same
  found := ⟨none, rfl⟩

theorem InvokeOptions.jsonFlag :
    Line.FlagOf grammar.withEverywhere "json" fun given : Given => { given with json := true } where
  noCommands := rfl
  named := by decide
  plain := by decide
  again _ := rfl
  options := by
    refine ruled_withEverywhere (by decide) (by decide) ?_
    simp only [grammar, List.forall_mem_cons]
    refine ⟨.value (some 'r') false (by decide) fun word => ?_,
      .value (some 'm') false (by decide) fun word => .change fun _ => rfl, .own none, by simp⟩
    exact .path (f := fun (given : Given) word => { given with repository := some word })
      (fun _ _ => rfl) word
  free _ := by
    rintro ⟨⟩ word
    exact .change fun _ => rfl
  found := ⟨none, rfl⟩

theorem CheckOptions.apart_free {set : CheckOptions → CheckOptions}
    (commutes : ∀ given file, { set given with files := (set given).files ++ [file] } =
      set { given with files := given.files ++ [file] }) :
    ∀ f, grammar.withEverywhere.free = some f → ∀ word, Line.Apart set (f · word) := by
  rintro _ ⟨⟩ word
  exact .path (f := fun (given : CheckOptions) word =>
    { given with files := given.files ++ [word] }) commutes word

theorem CheckOptions.jsonFlag :
    Line.FlagOf grammar.withEverywhere "json"
      fun given : CheckOptions => { given with json := true } where
  noCommands := rfl
  named := by decide
  plain := by decide
  again _ := rfl
  options := by
    refine ruled_withEverywhere (by decide) (by decide) ?_
    simp only [grammar, List.forall_mem_cons]
    exact ⟨.own none, .flag none (by decide) (.change fun _ => rfl), by simp⟩
  free := apart_free fun _ _ => rfl
  found := ⟨none, rfl⟩

namespace Invocation

section

variable {σ : Type} {grammar : Grammar σ} {set : σ → σ}

end

variable {command : String}

end Invocation

end QueryTemplate.Command
