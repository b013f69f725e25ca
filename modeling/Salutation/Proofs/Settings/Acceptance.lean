import Salutation.Settings.Load
import Salutation.Proofs.Json.Fields

namespace Salutation
namespace Settings

open Json Json.Grammar

/-!
# Which files hold settings

A file states its settings as the members of an object or as the items of a
list.  A setting may be left out and may not be stated twice, and whatever
else an object has is passed over.  These are the texts from which settings
are loaded, whatever the order of the members and the spelling of their keys.
The one thing that a text can state and that is not accepted is a timeout of
zero.
-/

/-- The items of a list, which are the settings in their order. -/
inductive Placed : List Bytes -> Option Nat -> Option Bool -> Prop
  | neither : Placed [] none none
  | timeout {raw : Bytes} {timeout : Nat} :
      NaturalText raw timeout -> Placed [raw] (some timeout) none
  | both {raw other : Bytes} {timeout : Nat} {runtime : Bool} :
      NaturalText raw timeout -> TruthText other runtime ->
      Placed [raw, other] (some timeout) (some runtime)

/-- A text that states settings, in one of the two forms. -/
inductive States : Bytes -> Option Nat -> Option Bool -> Prop
  | object {before inside after : Bytes} {members : List (String × Bytes)} {timeout : Option Nat}
      {runtime : Option Bool} :
      Gap before -> Elements (Member .keep RawText) inside members -> Gap after ->
      Stated NaturalText (valuesOf "read_timeout_ms" members) timeout ->
      Stated TruthText (valuesOf "show_runtime" members) runtime ->
      States (before ++ ascii '\x7b' :: (inside ++ ascii '\x7d' :: after)) timeout runtime
  | list {before inside after : Bytes} {items : List Bytes} {timeout : Option Nat}
      {runtime : Option Bool} :
      Gap before -> Elements RawText inside items -> Gap after -> Placed items timeout runtime ->
      States (before ++ ascii '[' :: (inside ++ ascii ']' :: after)) timeout runtime

/-- Settings with those changes that are stated. -/
def revised (settings : Settings) (timeout : Option Nat) (runtime : Option Bool) : Settings :=
  ⟨timeout.getD settings.timeoutMilliseconds, runtime.getD settings.showRuntime⟩

/-! ## One field -/

/-- What a field makes of settings when it is stated by some bytes. -/
inductive Sets (field : Json.Field Settings) (settings : Settings) (raw : Bytes) : Settings -> Prop
  | timeout {value : Nat} : field.name = "read_timeout_ms" -> NaturalText raw value ->
      Sets field settings raw { settings with timeoutMilliseconds := value }
  | runtime {value : Bool} : field.name = "show_runtime" -> TruthText raw value ->
      Sets field settings raw { settings with showRuntime := value }

theorem sets_timeout_iff (settings : Settings) (raw : Bytes) (later : Settings) :
    Sets timeoutField settings raw later ↔
      Exists fun value => NaturalText raw value ∧
        { settings with timeoutMilliseconds := value } = later := by
  constructor
  · intro sets
    cases sets with
    | timeout _ written => exact ⟨_, written, rfl⟩
    | runtime other _ => exact absurd other (by decide)
  · rintro ⟨value, written, rfl⟩
    exact .timeout rfl written

theorem sets_runtime_iff (settings : Settings) (raw : Bytes) (later : Settings) :
    Sets runtimeField settings raw later ↔
      Exists fun value => TruthText raw value ∧ { settings with showRuntime := value } = later := by
  constructor
  · intro sets
    cases sets with
    | timeout other _ => exact absurd other (by decide)
    | runtime _ written => exact ⟨_, written, rfl⟩
  · rintro ⟨value, written, rfl⟩
    exact .runtime rfl written

/-- A reader of settings that sets what another reader finds. -/
theorem settles_sets {Value : Type} {text : Bytes -> Value -> Prop} {field : Json.Field Settings}
    {settings : Settings} {raw rest : Bytes} {inner : Outcome Value} {outer : Outcome Settings}
    {change : Value -> Settings}
    (sets : forall later, Sets field settings raw later ↔
      Exists fun value => text raw value ∧ change value = later)
    (settles : Settles (Reads text raw) rest inner)
    (refuses : forall fault, inner = .error fault -> outer = .error fault)
    (reads : forall value after, inner = .ok (value, after) -> outer = .ok (change value, after)) :
    Settles (Reads (Sets field settings) raw) rest outer := by
  apply settles.map refuses reads
  intro result holds later
  rw [sets]
  exact holds.map change later

theorem field_settles (field : Json.Field Settings) (settings : Settings)
    (gap bytes raw rest : Bytes) (known : field ∈ [timeoutField, runtimeField])
    (separators : Gap gap) (written : RawText bytes raw) (ends : Delimited rest) :
    Settles (Reads (Sets field settings) raw) rest
      (field.read settings (gap ++ (bytes ++ rest))) := by
  simp only [List.mem_cons, List.not_mem_nil, or_false] at known
  rcases known with rfl | rfl
  · apply settles_sets (sets_timeout_iff settings raw) (readNatural_settles separators written ends)
    · intro fault refused
      simp only [timeoutField, refused]
    · intro value after read
      simp only [timeoutField, read]
  · apply settles_sets (sets_runtime_iff settings raw) (readBoolean_settles separators written ends)
    · intro fault refused
      simp only [runtimeField, refused]
    · intro value after read
      simp only [runtimeField, read]

theorem Sets.raw {field : Json.Field Settings} {settings later : Settings} {raw : Bytes}
    (sets : Sets field settings raw later) : RawText raw raw := by
  cases sets with
  | timeout _ written => exact written.raw
  | runtime _ written => exact written.raw

/-- There is one way at most to set a field by the same bytes. -/
theorem reads_sets {field : Json.Field Settings} {settings later : Settings} {raw : Bytes}
    (known : field ∈ [timeoutField, runtimeField]) (sets : Sets field settings raw later) :
    Reads (Sets field settings) raw (.ok later) := by
  apply reads_ok sets
  intro other written
  exact (field_settles field settings [] raw raw [] known gap_nil sets.raw delimited_nil).unique
    written sets

theorem field_sound (field : Json.Field Settings) (settings : Settings) (input : Bytes)
    (later : Settings) (rest : Bytes) (known : field ∈ [timeoutField, runtimeField])
    (read : field.read settings input = .ok (later, rest)) :
    Exists fun raw => Stands RawText input raw rest ∧
      Reads (Sets field settings) raw (.ok later) := by
  have member := known
  simp only [List.mem_cons, List.not_mem_nil, or_false] at known
  rcases known with rfl | rfl
  · simp only [timeoutField] at read
    split at read
    · cases read
    · next found =>
        cases read
        rcases readNatural_sound found with ⟨raw, stands, written⟩
        exact ⟨raw, stands, reads_sets member (.timeout rfl written)⟩
  · simp only [runtimeField] at read
    split at read
    · cases read
    · next found =>
        cases read
        rcases readBoolean_sound found with ⟨raw, stands, written⟩
        exact ⟨raw, stands, reads_sets member (.runtime rfl written)⟩

/-! ## All members of an object -/

/-- What the members from some point on come to, when some fields have occurred
before them. -/
def Completes (settings : Settings) (seen : List String) (members : List (String × Bytes))
    (final : Settings) : Prop :=
  Exists fun timeout => Exists fun runtime =>
    Remains "read_timeout_ms" NaturalText seen members timeout ∧
    Remains "show_runtime" TruthText seen members runtime ∧
    settings.revised timeout runtime = final

theorem completes_nil (settings : Settings) (seen : List String) (final : Settings) :
    Completes settings seen [] final ↔ settings = final := by
  simp only [Completes, remains_nil, exists_and_left, exists_eq_left]
  exact Iff.rfl

theorem completes_other {key : String} (notTimeout : key ≠ "read_timeout_ms")
    (notRuntime : key ≠ "show_runtime") (settings : Settings) (seen : List String) (raw : Bytes)
    (members : List (String × Bytes)) (final : Settings) :
    Completes settings seen ((key, raw) :: members) final ↔
      Completes settings seen members final := by
  simp only [Completes, remains_other notTimeout, remains_other notRuntime]

/-- A field that has occurred does not occur again. -/
theorem not_completes_repeated {key : String} {seen : List String}
    (known : key = "read_timeout_ms" ∨ key = "show_runtime") (repeated : key ∈ seen)
    (settings : Settings) (raw : Bytes) (members : List (String × Bytes)) (final : Settings) :
    ¬ Completes settings seen ((key, raw) :: members) final := by
  rintro ⟨timeout, runtime, first, second, _⟩
  rcases known with rfl | rfl
  · exact not_remains_repeated repeated first
  · exact not_remains_repeated repeated second

/-- The timeout is set by its member and by none after it. -/
theorem completes_timeout {seen : List String} (fresh : "read_timeout_ms" ∉ seen)
    (settings : Settings) (raw : Bytes) (members : List (String × Bytes)) (final : Settings) :
    Completes settings seen (("read_timeout_ms", raw) :: members) final ↔
      Exists fun later => Sets timeoutField settings raw later ∧
        Completes later ("read_timeout_ms" :: seen) members final := by
  have different : "read_timeout_ms" ≠ "show_runtime" := by decide
  simp only [sets_timeout_iff, Completes, remains_same fresh, remains_seen_same,
    remains_other different, remains_seen_other different]
  constructor
  · rintro ⟨_, runtime, ⟨last, value, written, rfl⟩, other, rfl⟩
    exact ⟨_, ⟨value, written, rfl⟩, .none, runtime, ⟨last, rfl⟩, other, rfl⟩
  · rintro ⟨_, ⟨value, written, rfl⟩, _, runtime, ⟨last, rfl⟩, other, rfl⟩
    exact ⟨some value, runtime, ⟨last, value, written, rfl⟩, other, rfl⟩

/-- The other setting is set by its member and by none after it. -/
theorem completes_runtime {seen : List String} (fresh : "show_runtime" ∉ seen)
    (settings : Settings) (raw : Bytes) (members : List (String × Bytes)) (final : Settings) :
    Completes settings seen (("show_runtime", raw) :: members) final ↔
      Exists fun later => Sets runtimeField settings raw later ∧
        Completes later ("show_runtime" :: seen) members final := by
  have different : "show_runtime" ≠ "read_timeout_ms" := by decide
  simp only [sets_runtime_iff, Completes, remains_same fresh, remains_seen_same,
    remains_other different, remains_seen_other different]
  constructor
  · rintro ⟨timeout, _, other, ⟨last, value, written, rfl⟩, rfl⟩
    exact ⟨_, ⟨value, written, rfl⟩, timeout, .none, other, ⟨last, rfl⟩, rfl⟩
  · rintro ⟨_, ⟨value, written, rfl⟩, timeout, _, other, ⟨last, rfl⟩, rfl⟩
    exact ⟨timeout, some value, other, ⟨last, value, written, rfl⟩, rfl⟩

theorem find_field (key : String) :
    [timeoutField, runtimeField].find? (fun field => field.name == key) =
      if key = "read_timeout_ms" then some timeoutField
      else if key = "show_runtime" then some runtimeField else none := by
  by_cases timeout : key = "read_timeout_ms"
  · rw [timeout]
    rfl
  by_cases runtime : key = "show_runtime"
  · rw [runtime]
    rfl
  have first : (timeoutField.name == key) = false :=
    beq_eq_false_iff_ne.mpr fun same => timeout same.symm
  have second : (runtimeField.name == key) = false :=
    beq_eq_false_iff_ne.mpr fun same => runtime same.symm
  rw [if_neg timeout, if_neg runtime]
  simp only [List.find?, first, second]

/-- A known field completes as its reader sets it. -/
theorem completes_field {key : String} {seen : List String} {field : Json.Field Settings}
    (found : [timeoutField, runtimeField].find? (fun field => field.name == key) = some field)
    (fresh : key ∉ seen) (settings : Settings) (raw : Bytes) (members : List (String × Bytes))
    (final : Settings) :
    Completes settings seen ((key, raw) :: members) final ↔
      Exists fun later => Sets field settings raw later ∧
        Completes later (key :: seen) members final := by
  rw [find_field] at found
  split at found
  · next timeout =>
      cases timeout
      cases found
      exact completes_timeout fresh settings raw members final
  split at found
  · next runtime =>
      cases runtime
      cases found
      exact completes_runtime fresh settings raw members final
  · cases found

section

variable {settings : Settings} {seen : List String} {key : String} {raw : Bytes}

/-- A member that is read leaves the other ones to complete. -/
theorem completes_step {later : Settings} {names : List String}
    (step : Record.FieldStep [timeoutField, runtimeField]
      (fun field settings => Reads (Sets field settings)) (settings, seen) (key, raw)
      (.ok (later, names)))
    (members : List (String × Bytes)) (final : Settings) :
    Completes settings seen ((key, raw) :: members) final ↔
      Completes later names members final := by
  generalize reached : Except.ok (later, names) = result at step
  cases step with
  | unknown unknown =>
      cases reached
      rw [find_field] at unknown
      split at unknown
      · cases unknown
      · next notTimeout =>
          split at unknown
          · cases unknown
          · next notRuntime => rw [completes_other notTimeout notRuntime]
  | repeated _ _ => cases reached
  | @field _ _ _ _ _ result found fresh reads =>
      cases result with
      | error cause => cases reached
      | ok changed =>
          cases reached
          rw [completes_field found fresh]
          constructor
          · rintro ⟨other, sets, completes⟩
            rw [Except.ok.inj ((reads other).mpr sets)]
            exact completes
          · intro completes
            exact ⟨later, (reads later).mp rfl, completes⟩

/-- After a member that is refused there is nothing to complete. -/
theorem not_completes_step {cause : Cause}
    (step : Record.FieldStep [timeoutField, runtimeField]
      (fun field settings => Reads (Sets field settings)) (settings, seen) (key, raw)
      (.error cause))
    (members : List (String × Bytes)) (final : Settings) :
    ¬ Completes settings seen ((key, raw) :: members) final := by
  generalize reached : Except.error cause = result at step
  cases step with
  | unknown _ => cases reached
  | repeated found repeated =>
      have known : key = "read_timeout_ms" ∨ key = "show_runtime" := by
        rw [find_field] at found
        split at found
        · next timeout => exact .inl timeout
        split at found
        · next runtime => exact .inr runtime
        · cases found
      exact not_completes_repeated known repeated _ _ _ _
  | @field _ _ _ _ _ result found fresh reads =>
      cases result with
      | ok changed => cases reached
      | error other =>
          rw [completes_field found fresh]
          rintro ⟨later, sets, _⟩
          exact (reads_error_iff _ _ _).mp reads later sets

/-- The members of an object come to settings exactly if they complete them. -/
theorem along_reads {members : List (String × Bytes)}
    {progress : Except Cause (Settings × List String)}
    (along : Along (Record.FieldStep [timeoutField, runtimeField]
      fun field settings => Reads (Sets field settings)) (settings, seen) members progress)
    (final : Settings) :
    progress.map Prod.fst = .ok final ↔ Completes settings seen members final := by
  generalize same : (settings, seen) = start at along
  induction along generalizing settings seen with
  | done =>
      cases same
      rw [completes_nil, Except.map, Except.ok.injEq]
  | next step _ inductionHypothesis =>
      cases same
      rw [inductionHypothesis rfl, completes_step step]
  | refused step =>
      cases same
      constructor
      · intro impossible
        cases impossible
      · intro completes
        exact absurd completes (not_completes_step step _ final)

end

/-! ## All items of a list -/

/-- The items of a list come to settings exactly if each is in its place. -/
theorem inOrder_iff (settings : Settings) (items : List Bytes) (final : Settings) :
    Record.InOrder (fun field settings => Reads (Sets field settings))
        [timeoutField, runtimeField] settings items final ↔
      Exists fun timeout => Exists fun runtime =>
        Placed items timeout runtime ∧ settings.revised timeout runtime = final := by
  constructor
  · intro inOrder
    cases inOrder with
    | done => exact ⟨none, none, .neither, rfl⟩
    | next first others =>
        rcases (sets_timeout_iff _ _ _).mp ((first _).mp rfl) with ⟨timeout, written, rfl⟩
        cases others with
        | done => exact ⟨some timeout, none, .timeout written, rfl⟩
        | next second others =>
            rcases (sets_runtime_iff _ _ _).mp ((second _).mp rfl) with ⟨runtime, found, rfl⟩
            cases others
            exact ⟨some timeout, some runtime, .both written found, rfl⟩
  · rintro ⟨_, _, placed, rfl⟩
    have first : timeoutField ∈ [timeoutField, runtimeField] := List.mem_cons_self
    have second : runtimeField ∈ [timeoutField, runtimeField] :=
      List.mem_cons_of_mem _ List.mem_cons_self
    cases placed with
    | neither => exact .done
    | timeout written => exact .next (reads_sets first (.timeout rfl written)) .done
    | both written other =>
        exact .next (reads_sets first (.timeout rfl written))
          (.next (reads_sets second (.runtime rfl other)) .done)

/-! ## Whole files -/

theorem completes_start (members : List (String × Bytes)) (final : Settings) :
    Completes defaults [] members final ↔
      Exists fun timeout => Exists fun runtime =>
        Stated NaturalText (valuesOf "read_timeout_ms" members) timeout ∧
        Stated TruthText (valuesOf "show_runtime" members) runtime ∧
        defaults.revised timeout runtime = final := by
  simp only [Completes, remains_start]

/-- The settings of a text are the defaults with what it states. -/
theorem decode_eq_ok_iff (content : Bytes) (settings : Settings) :
    decode content = .ok settings ↔
      Exists fun timeout => Exists fun runtime =>
        States content timeout runtime ∧ defaults.revised timeout runtime = settings := by
  rw [decode, readAll_eq_ok_iff]
  constructor
  · rintro ⟨rest, read, trailing⟩
    have skips : forall bytes value, ValueText .skip bytes value ->
        Exists fun raw => RawText bytes raw := fun bytes value written => ⟨bytes, .value written⟩
    rcases Record.read_sound read field_sound skips with
      ⟨gap, leading, ⟨bytes, members, seen, rfl, elements, along⟩ | ⟨inside, rfl, items⟩⟩
    · rcases (completes_start _ _).mp ((along_reads along settings).mp rfl) with
        ⟨timeout, runtime, first, second, same⟩
      exact ⟨timeout, runtime, .object leading elements trailing first second, same⟩
    · rcases Record.readItems_sound items field_sound with ⟨bytes, found, rfl, run, inOrder⟩
      rcases (inOrder_iff _ _ _).mp inOrder with ⟨timeout, runtime, placed, same⟩
      exact ⟨timeout, runtime, .list leading ((run_true_iff _ _).mp run) trailing placed, same⟩
  · rintro ⟨timeout, runtime, states, same⟩
    cases states with
    | @object before inside after members _ _ leading elements trailing first second =>
        have completes := (completes_start _ _).mpr ⟨_, _, first, second, same⟩
        have skippable : forall bytes raw, RawText bytes raw ->
            Exists fun other => ValueText .skip bytes other := by
          rintro bytes _ ⟨written⟩
          exact ⟨_, written⟩
        have settles := Record.read_object_settles "struct Config" defaults field_settles skippable
          leading elements after
        refine ⟨after, ?_, trailing⟩
        rw [reader, ← settles_eq_iff]
        apply settles.mono
        rintro _ ⟨progress, along, rfl⟩
        exact (along_reads along settings).mpr completes
    | @list before inside after items _ _ leading elements trailing placed =>
        have inOrder := (inOrder_iff _ _ _).mpr ⟨_, _, placed, same⟩
        have exact : forall field settings bytes raw later rest,
            field ∈ [timeoutField, runtimeField] -> RawText bytes raw -> Delimited rest ->
            Reads (Sets field settings) raw (.ok later) ->
            field.read settings (bytes ++ rest) = .ok (later, rest) := by
          intro field settings bytes raw later rest known written ends reads
          have settles := field_settles field settings [] bytes raw rest known gap_nil written ends
          exact settles.eq_ok ((reads later).mp rfl)
        refine ⟨after, ?_, trailing⟩
        rw [reader, Record.read_list _ _ leading]
        exact Record.readItems_append (fun _ _ => RawText.starts) exact
          ((run_true_iff _ _).mpr elements) inOrder after

theorem revised_timeout_eq_zero_iff (timeout : Option Nat) (runtime : Option Bool) :
    (defaults.revised timeout runtime).timeoutMilliseconds = 0 ↔ timeout = some 0 := by
  cases timeout with
  | some milliseconds => exact Option.some_inj.symm
  | none =>
      constructor
      · intro impossible
        cases impossible
      · intro impossible
        cases impossible

theorem validate_eq_ok_iff (settings : Settings) :
    settings.validate = .ok () ↔ settings.timeoutMilliseconds ≠ 0 := by
  rw [validate, isValid]
  split
  · next valid => exact ⟨fun _ => bne_iff_ne.mp valid, fun _ => rfl⟩
  · next invalid =>
      constructor
      · intro impossible
        cases impossible
      · intro positive
        exact absurd (bne_iff_ne.mpr positive) invalid

theorem validate_of_zero {settings : Settings} (zero : settings.timeoutMilliseconds = 0) :
    settings.validate = .error .zeroTimeout := by
  rw [validate, isValid, zero]
  rfl

section

variable {content : Bytes} {text : String}

/-- The settings of a text, in terms of what it states. -/
theorem ofContent_of_states (encoded : content.toText? = some text) {timeout : Option Nat}
    {runtime : Option Bool} (states : States content timeout runtime) :
    (timeout ≠ some 0 -> ofContent content = .ok (defaults.revised timeout runtime)) ∧
    (timeout = some 0 -> ofContent content = .error .zeroTimeout) := by
  have decoded := (decode_eq_ok_iff _ _).mpr ⟨timeout, runtime, states, rfl⟩
  constructor
  · intro positive
    have valid := (validate_eq_ok_iff _).mpr fun zero =>
      positive ((revised_timeout_eq_zero_iff timeout runtime).mp zero)
    simp only [ofContent, encoded, decoded, valid]
  · intro zero
    have invalid := validate_of_zero ((revised_timeout_eq_zero_iff timeout runtime).mpr zero)
    simp only [ofContent, encoded, decoded, invalid]

/-- A text that states no settings is not parsed. -/
theorem ofContent_of_not_states (encoded : content.toText? = some text)
    (none : forall timeout runtime, ¬ States content timeout runtime) :
    Exists fun complaint => ofContent content = .error (.unparsable complaint) := by
  cases decoded : decode content with
  | error complaint =>
      refine ⟨complaint, ?_⟩
      simp only [ofContent, encoded, decoded]
  | ok settings =>
      rcases (decode_eq_ok_iff _ _).mp decoded with ⟨timeout, runtime, states, _⟩
      exact absurd states (none timeout runtime)

theorem ofContent_of_not_text (other : content.toText? = none) :
    ofContent content = .error (.unreadable .notUtf8) := by
  simp only [ofContent, other]

/-- Every text comes to one of three results. -/
theorem ofContent_cases (encoded : content.toText? = some text) :
    (Exists fun timeout => Exists fun runtime => States content timeout runtime ∧
      timeout ≠ some 0 ∧ ofContent content = .ok (defaults.revised timeout runtime)) ∨
    (Exists fun runtime => States content (some 0) runtime ∧
      ofContent content = .error .zeroTimeout) ∨
    ((forall timeout runtime, ¬ States content timeout runtime) ∧
      Exists fun complaint => ofContent content = .error (.unparsable complaint)) := by
  by_cases stated : Exists fun timeout => Exists fun runtime => States content timeout runtime
  · rcases stated with ⟨timeout, runtime, states⟩
    by_cases zero : timeout = some 0
    · have rejected := (ofContent_of_states encoded states).2 zero
      rw [zero] at states
      exact .inr (.inl ⟨runtime, states, rejected⟩)
    · exact .inl ⟨timeout, runtime, states, zero, (ofContent_of_states encoded states).1 zero⟩
  · have none : forall timeout runtime, ¬ States content timeout runtime :=
      fun timeout runtime states => stated ⟨timeout, runtime, states⟩
    exact .inr (.inr ⟨none, ofContent_of_not_states encoded none⟩)

theorem ofContent_eq_ok_iff (encoded : content.toText? = some text) (settings : Settings) :
    ofContent content = .ok settings ↔
      Exists fun timeout => Exists fun runtime => States content timeout runtime ∧
        timeout ≠ some 0 ∧ settings = defaults.revised timeout runtime := by
  constructor
  · intro loaded
    rcases ofContent_cases encoded with
      ⟨timeout, runtime, states, positive, same⟩ | ⟨_, _, other⟩ | ⟨_, _, other⟩
    · rw [loaded, Except.ok.injEq] at same
      exact ⟨timeout, runtime, states, positive, same⟩
    · rw [loaded] at other
      cases other
    · rw [loaded] at other
      cases other
  · rintro ⟨timeout, runtime, states, positive, rfl⟩
    exact (ofContent_of_states encoded states).1 positive

theorem ofContent_eq_zeroTimeout_iff (encoded : content.toText? = some text) :
    ofContent content = .error .zeroTimeout ↔
      Exists fun runtime => States content (some 0) runtime := by
  constructor
  · intro rejected
    rcases ofContent_cases encoded with ⟨_, _, _, _, other⟩ | ⟨runtime, states, _⟩ | ⟨_, _, other⟩
    · rw [rejected] at other
      cases other
    · exact ⟨runtime, states⟩
    · rw [rejected] at other
      cases other
  · rintro ⟨runtime, states⟩
    exact (ofContent_of_states encoded states).2 rfl

theorem ofContent_eq_unparsable_iff (encoded : content.toText? = some text) :
    (Exists fun complaint => ofContent content = .error (.unparsable complaint)) ↔
      forall timeout runtime, ¬ States content timeout runtime := by
  constructor
  · rintro ⟨complaint, rejected⟩
    rcases ofContent_cases encoded with ⟨_, _, _, _, other⟩ | ⟨_, _, other⟩ | ⟨none, _⟩
    · rw [rejected] at other
      cases other
    · rw [rejected] at other
      cases other
    · exact none
  · exact ofContent_of_not_states encoded

/-- Nothing is loaded that leaves no time to wait. -/
theorem timeout_pos_of_ofContent {settings : Settings}
    (loaded : ofContent content = .ok settings) : 1 <= settings.timeoutMilliseconds := by
  cases encoded : content.toText? with
  | none =>
      rw [ofContent_of_not_text encoded] at loaded
      cases loaded
  | some text =>
      rcases (ofContent_eq_ok_iff encoded settings).mp loaded with
        ⟨timeout, runtime, _, positive, rfl⟩
      have nonzero := fun zero => positive ((revised_timeout_eq_zero_iff timeout runtime).mp zero)
      exact Nat.one_le_iff_ne_zero.mpr nonzero

end

/-- The settings of a file are loaded exactly if it is a text that states them
and that does not state a timeout of zero.  Each setting is then the one that
is stated, or the default.  A file that is not in UTF-8 is not read, one that
states a timeout of zero is not valid, and all others are not parsed. -/
theorem load_accepts {files : Files} {path : String} {content : Bytes}
    (present : files path = .file content) :
    (content.toText? = none -> load files path = .quiet (.error (.unreadable .notUtf8))) ∧
    (forall text, content.toText? = some text ->
      (forall settings, load files path = .quiet (.ok settings) ↔
        Exists fun timeout => Exists fun runtime =>
          States content timeout runtime ∧ timeout ≠ some 0 ∧
          settings = ⟨timeout.getD 250, runtime.getD false⟩) ∧
      (load files path = .quiet (.error .zeroTimeout) ↔
        Exists fun runtime => States content (some 0) runtime) ∧
      ((Exists fun complaint => load files path = .quiet (.error (.unparsable complaint))) ↔
        forall timeout runtime, ¬ States content timeout runtime)) ∧
    (forall settings, load files path = .quiet (.ok settings) ->
      1 <= settings.timeoutMilliseconds) := by
  have quiet_inj : forall first second : Except LoadError Settings,
      Diagnostics.Logged.quiet first = .quiet second ↔ first = second := by
    intro first second
    simp only [Diagnostics.Logged.quiet, Diagnostics.Logged.mk.injEq, and_true]
  have loaded : load files path = .quiet (ofContent content) := by
    rw [load, present]
    rfl
  simp only [loaded, quiet_inj]
  refine ⟨ofContent_of_not_text, ?_, fun settings => timeout_pos_of_ofContent⟩
  intro text encoded
  exact ⟨ofContent_eq_ok_iff encoded, ofContent_eq_zeroTimeout_iff encoded,
    ofContent_eq_unparsable_iff encoded⟩

/-- A key with an escape in it, after a member that is passed over. -/
theorem load_escaped_key :
    Exists fun timeout => Exists fun runtime =>
      States (Bytes.ofText "\x7b\"x\":[1e999],\"read\\u005ftimeout_ms\":7\x7d") timeout runtime ∧
      timeout ≠ some 0 ∧ (⟨7, false⟩ : Settings) = ⟨timeout.getD 250, runtime.getD false⟩ := by
  have accepts := @load_accepts
    (fun _ => .file (Bytes.ofText "\x7b\"x\":[1e999],\"read\\u005ftimeout_ms\":7\x7d"))
    "greeter.json" _ rfl
  exact ((accepts.2.1 _ rfl).1 ⟨7, false⟩).mp rfl

end Settings
end Salutation
