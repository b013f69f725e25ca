import Salutation.Proofs.CommandLine.Uses

namespace Salutation
namespace CommandLine

/-!
# Which command lines are run

A command line that is run is nothing but uses of the options that choose
something, each at most once, and perhaps two dashes at the end.  What an
argument can do is said once: it is the value that was awaited, or an option
that awaits its value, or a use of an option in one argument.  Everything that
is accepted is made of these steps, so that an option can be taken out of a
command line and leaves one that is accepted as well.
-/

/-! ## What one argument does -/

/-- An argument that is taken, and the progress that it makes. -/
inductive Takes (progress : Progress) (argument : String) : Progress -> Prop
  | value : progress.pending = .awaiting -> IsPlain argument ->
      Takes progress argument { progress with pending := .holding argument }
  | option {settled : Progress} : progress.settle = .ok settled ->
      argument = "--config" ∨ argument = "-c" ->
      Takes progress argument { settled with pending := .awaiting }
  | use {settled : Progress} {use : Use} : progress.settle = .ok settled ->
      use.flag ∉ settled.used -> Written use [argument] ->
      Takes progress argument (settled.using use)

section

variable {progress settled next : Progress}

theorem count_ok {flag : Flag} {choices : Choices}
    (counted : settled.count flag choices = .ok next) :
    flag ∉ settled.used ∧
      { settled with choices := choices, used := settled.used ++ [flag] } = next := by
  rw [Progress.count] at counted
  split at counted
  · cases counted
  · next absent =>
      cases counted
      exact ⟨fun used => absent (List.contains_iff_mem.mpr used), rfl⟩

theorem takeSwitch_ok {flag : Flag} (taken : progress.takeSwitch flag = .ok next) :
    Exists fun settled => progress.settle = .ok settled ∧ flag ≠ .help ∧ flag ≠ .version ∧
      flag ∉ settled.used ∧
      { settled with
        choices := { settled.choices with showRuntime := true }
        used := settled.used ++ [flag] } = next := by
  rw [Progress.takeSwitch] at taken
  split at taken
  · cases taken
  · next settled settles =>
      split at taken
      · cases taken
      · cases taken
      · next notHelp notVersion =>
          split at taken
          · cases taken
          · next counted =>
              cases taken
              exact ⟨settled, settles, notHelp, notVersion, count_ok counted⟩

theorem takeConfig_none_ok (taken : progress.takeConfig none = .ok next) :
    Exists fun settled => progress.settle = .ok settled ∧
      { settled with pending := .awaiting } = next := by
  rw [Progress.takeConfig] at taken
  split at taken
  · cases taken
  · next settled settles =>
      cases taken
      exact ⟨settled, settles, rfl⟩

theorem takeConfig_some_ok {value : String} (taken : progress.takeConfig (some value) = .ok next) :
    Exists fun settled => progress.settle = .ok settled ∧ .config ∉ settled.used ∧
      settled.using (.config value) = next := by
  rw [Progress.takeConfig] at taken
  split at taken
  · cases taken
  · next settled settles =>
      simp only at taken
      split at taken
      · cases taken
      · next counted =>
          cases taken
          exact ⟨settled, settles, count_ok counted⟩

theorem takePlain_ok {argument : String} (taken : progress.takePlain argument = .ok next) :
    progress.pending = .awaiting ∧ { progress with pending := .holding argument } = next := by
  rw [Progress.takePlain] at taken
  split at taken
  · next awaiting =>
      cases taken
      exact ⟨awaiting, rfl⟩
  · cases taken

theorem longName_of_found {name : String} {flag : Flag}
    (found : Flag.ofLongName? name = some flag) : flag.longName = name := by
  rw [Flag.ofLongName?] at found
  have named := List.find?_some found
  exact eq_of_beq named

theorem letter_of_found {letter : Char} {flag : Flag}
    (found : Flag.ofLetter? letter = some flag) : flag.letter? = some letter := by
  rw [Flag.ofLetter?] at found
  have named := List.find?_some found
  exact eq_of_beq named

/-- A long argument is a name, or a name and a value after an equals sign. -/
theorem name_or_value (text : List Char) :
    text.dropWhile (· != '=') = [] ∧ text.takeWhile (· != '=') = text ∨
      Exists fun value => text.dropWhile (· != '=') = '=' :: value ∧
        text = text.takeWhile (· != '=') ++ '=' :: value := by
  have whole : text.takeWhile (· != '=') ++ text.dropWhile (· != '=') = text :=
    List.takeWhile_append_dropWhile
  cases after : text.dropWhile (· != '=') with
  | nil =>
      rw [after, List.append_nil] at whole
      exact .inl ⟨rfl, whole⟩
  | cons sign value =>
      have nonempty : text.dropWhile (· != '=') ≠ [] := by
        rw [after]
        exact List.cons_ne_nil _ _
      have first := List.head_dropWhile_not (· != '=') nonempty
      simp only [after, List.head_cons, bne_eq_false_iff_eq] at first
      rw [after, first] at whole
      exact .inr ⟨value, by rw [first], whole.symm⟩

/-- A name without a value after it. -/
theorem takeLong_name {argument : String} {text : List Char} {flag : Flag}
    (found : Flag.ofLongName? (String.ofList (text.takeWhile (· != '='))) = some flag)
    (after : text.dropWhile (· != '=') = []) (spelled : argument = "--" ++ flag.longName)
    (taken : progress.takeLong text = .ok next) : Takes progress argument next := by
  cases flag with
  | config =>
      simp only [Progress.takeLong, found, after] at taken
      rcases takeConfig_none_ok taken with ⟨settled, settles, rfl⟩
      exact .option settles (.inl spelled)
  | showRuntime =>
      simp only [Progress.takeLong, found, after] at taken
      rcases takeSwitch_ok taken with ⟨settled, settles, _, _, fresh, rfl⟩
      rw [spelled]
      exact @Takes.use progress _ settled .showRuntime settles fresh (.spelled .showRuntime)
  | help =>
      simp only [Progress.takeLong, found, after] at taken
      rcases takeSwitch_ok taken with ⟨_, _, notHelp, _⟩
      exact absurd rfl notHelp
  | version =>
      simp only [Progress.takeLong, found, after] at taken
      rcases takeSwitch_ok taken with ⟨_, _, _, notVersion, _⟩
      exact absurd rfl notVersion

/-- A name and a value: only one option takes it. -/
theorem takeLong_value {argument : String} {text value : List Char} {flag : Flag}
    (found : Flag.ofLongName? (String.ofList (text.takeWhile (· != '='))) = some flag)
    (after : text.dropWhile (· != '=') = '=' :: value)
    (spelled : argument.toList = "--".toList ++ flag.longName.toList ++ '=' :: value)
    (taken : progress.takeLong text = .ok next) : Takes progress argument next := by
  cases flag with
  | config =>
      simp only [Progress.takeLong, found, after] at taken
      rcases takeConfig_some_ok taken with ⟨settled, settles, fresh, rfl⟩
      have attached : argument = "--config=" ++ String.ofList value := by
        rw [← String.toList_inj, toList_attached, spelled]
        simp only [String.toList_ofList]
        rfl
      have uses : Written (.config (String.ofList value))
          ["--config=" ++ String.ofList value] := .spelled .attached
      rw [attached]
      exact Takes.use settles fresh uses
  | _ =>
      simp only [Progress.takeLong, found, after] at taken
      cases taken

/-- An argument that starts with two dashes. -/
theorem takeLong_takes {argument : String} {text : List Char}
    (written : argument.toList = '-' :: '-' :: text) (taken : progress.takeLong text = .ok next) :
    Takes progress argument next := by
  cases found : Flag.ofLongName? (String.ofList (text.takeWhile (· != '='))) with
  | none =>
      simp only [Progress.takeLong, found] at taken
      cases taken
  | some flag =>
      have known : flag.longName.toList = text.takeWhile (· != '=') := by
        rw [longName_of_found found, String.toList_ofList]
      rcases name_or_value text with ⟨after, whole⟩ | ⟨value, after, whole⟩
      · refine takeLong_name found after ?_ taken
        rw [← String.toList_inj, String.toList_append, known, whole, written]
        rfl
      · refine takeLong_value found after ?_ taken
        rw [written, known, List.append_assoc, ← whole]
        rfl

/-- The letter of the option that takes a value, with the value if there is one
behind it. -/
theorem takeLetters_config {argument : String} {rest : List Char}
    (written : argument.toList = '-' :: 'c' :: rest)
    (taken : progress.takeLetters ('c' :: rest) = .ok next) : Takes progress argument next := by
  cases rest with
  | nil =>
      rcases takeConfig_none_ok taken with ⟨settled, settles, rfl⟩
      have spelled : argument = "-c" := by
        rw [← String.toList_inj, written]
        rfl
      exact .option settles (.inr spelled)
  | cons first value =>
      by_cases sign : first = '='
      · cases sign
        rcases takeConfig_some_ok taken with ⟨settled, settles, fresh, rfl⟩
        have spelled : argument = "-c=" ++ String.ofList value := by
          rw [← String.toList_inj, toList_letterEquals, String.toList_ofList, written]
        have uses : Written (.config (String.ofList value)) ["-c=" ++ String.ofList value] :=
          .spelled .letterEquals
        rw [spelled]
        exact Takes.use settles fresh uses
      · rw [takeLetters_attached sign] at taken
        rcases takeConfig_some_ok taken with ⟨settled, settles, fresh, rfl⟩
        have spelled : argument = "-c" ++ String.ofList (first :: value) := by
          rw [← String.toList_inj, toList_letterAttached, String.toList_ofList, written]
        have nonempty : String.ofList (first :: value) ≠ "" := by
          rw [ne_eq, ← String.toList_eq_nil_iff, String.toList_ofList]
          exact List.cons_ne_nil _ _
        have plain : (String.ofList (first :: value)).toList.head? ≠ some '=' := by
          rw [String.toList_ofList]
          exact fun same => sign (Option.some.inj same)
        have uses : Written (.config (String.ofList (first :: value)))
            ["-c" ++ String.ofList (first :: value)] :=
          .spelled (.letterAttached nonempty plain)
        rw [spelled]
        exact Takes.use settles fresh uses

/-- An argument that starts with one dash. -/
theorem takeLetters_takes {argument : String} {letter : Char} {rest : List Char}
    (written : argument.toList = '-' :: letter :: rest)
    (taken : progress.takeLetters (letter :: rest) = .ok next) : Takes progress argument next := by
  cases found : Flag.ofLetter? letter with
  | none =>
      simp only [Progress.takeLetters, found] at taken
      cases taken
  | some flag =>
      have known := letter_of_found found
      cases flag with
      | config =>
          cases known
          exact takeLetters_config written taken
      | showRuntime => cases known
      | help =>
          simp only [Progress.takeLetters, found] at taken
          split at taken
          · cases taken
          · next switched =>
              rcases takeSwitch_ok switched with ⟨_, _, notHelp, _⟩
              exact absurd rfl notHelp
      | version =>
          simp only [Progress.takeLetters, found] at taken
          split at taken
          · cases taken
          · next switched =>
              rcases takeSwitch_ok switched with ⟨_, _, _, notVersion, _⟩
              exact absurd rfl notVersion

/-- An argument that is taken is taken in one of these ways. -/
theorem take_takes {argument : String} (taken : progress.take argument = .ok next) :
    Takes progress argument next := by
  rw [Progress.take] at taken
  split at taken
  · next text written => exact takeLong_takes written taken
  · next letter letters _ written => exact takeLetters_takes written taken
  · next notLong notLetters =>
      rcases takePlain_ok taken with ⟨awaiting, rfl⟩
      refine .value awaiting ?_
      cases written : argument.toList with
      | nil =>
          left
          rw [written]
          intro impossible
          cases impossible
      | cons first rest =>
          by_cases dash : first = '-'
          · cases rest with
            | nil =>
                right
                rw [← String.toList_inj, written, dash]
                rfl
            | cons letter letters => exact absurd (dash ▸ written) (notLetters letter letters)
          · left
            rw [written]
            exact fun same => dash (Option.some.inj same)

/-! ## What settles the answer early -/

theorem takeSwitch_error {flag : Flag} {answer : Answer}
    (stopped : progress.takeSwitch flag = .error answer) (choices : Choices) :
    answer ≠ .run choices := by
  rintro rfl
  rw [Progress.takeSwitch] at stopped
  split at stopped
  · cases stopped
  · split at stopped
    · cases stopped
    · cases stopped
    · split at stopped <;> cases stopped

theorem takeConfig_error {attached : Option String} {answer : Answer}
    (stopped : progress.takeConfig attached = .error answer) (choices : Choices) :
    answer ≠ .run choices := by
  rintro rfl
  rw [Progress.takeConfig] at stopped
  split at stopped
  · cases stopped
  · split at stopped
    · cases stopped
    · split at stopped <;> cases stopped

theorem takeLong_error {text : List Char} {answer : Answer}
    (stopped : progress.takeLong text = .error answer) (choices : Choices) :
    answer ≠ .run choices := by
  unfold Progress.takeLong at stopped
  simp only at stopped
  split at stopped
  · cases stopped
    intro impossible
    cases impossible
  · exact takeConfig_error stopped choices
  · exact takeSwitch_error stopped choices
  · cases stopped
    intro impossible
    cases impossible

theorem takeLetters_error {letters : List Char} {answer : Answer}
    (stopped : progress.takeLetters letters = .error answer) (choices : Choices) :
    answer ≠ .run choices := by
  induction letters generalizing progress with
  | nil => cases stopped
  | cons letter rest inductionHypothesis =>
      rw [Progress.takeLetters.eq_def] at stopped
      simp only at stopped
      split at stopped
      · cases stopped
        intro impossible
        cases impossible
      · split at stopped <;> exact takeConfig_error stopped choices
      · split at stopped
        · next switched =>
            cases stopped
            exact takeSwitch_error switched choices
        · exact inductionHypothesis stopped

theorem take_error {argument : String} {answer : Answer}
    (stopped : progress.take argument = .error answer) (choices : Choices) :
    answer ≠ .run choices := by
  rw [Progress.take] at stopped
  split at stopped
  · exact takeLong_error stopped choices
  · exact takeLetters_error stopped choices
  · rw [Progress.takePlain] at stopped
    split at stopped
    · cases stopped
    · cases stopped
      intro impossible
      cases impossible

/-! ## All arguments -/

/-- Arguments that, from settled progress on, are uses of options that have not
been used before, and the choices they come to. -/
def RunsTo (settled : Progress) (arguments : List String) (choices : Choices) : Prop :=
  Exists fun uses => Accepted uses arguments ∧
    (forall use, use ∈ uses -> use.flag ∉ settled.used) ∧ (uses.map Use.flag).Nodup ∧
    uses.foldl Use.choose settled.choices = choices

theorem RunsTo.cons {use : Use} {first rest : List String} {choices : Choices}
    (later : RunsTo (settled.using use) rest choices) (fresh : use.flag ∉ settled.used)
    (written : Written use first) : RunsTo settled (first ++ rest) choices := by
  rcases later with ⟨uses, accepted, others, once, chosen⟩
  refine ⟨use :: uses, .use written accepted, ?_, ?_, chosen⟩
  · intro other member
    rcases List.mem_cons.mp member with rfl | member
    · exact fresh
    · exact fun used => others other member (List.mem_append_left _ used)
  · rw [List.map_cons, List.nodup_cons]
    refine ⟨?_, once⟩
    intro again
    rcases List.mem_map.mp again with ⟨other, member, same⟩
    apply others other member
    rw [same]
    exact List.mem_append_right _ (List.mem_singleton_self _)

theorem runsTo_end {arguments : List String} (nothing : Accepted [] arguments) :
    RunsTo settled arguments settled.choices := by
  refine ⟨[], nothing, ?_, List.nodup_nil, rfl⟩
  intro use member
  exact absurd member List.not_mem_nil

/-- A value that was awaited is a use of its option, once it is settled. -/
theorem settle_holding {value : String} {later : Progress}
    (nothing : settled.pending = .nothing)
    (settles : ({ settled with pending := .holding value } : Progress).settle = .ok later) :
    .config ∉ settled.used ∧ settled.using (.config value) = later := by
  have counted : settled.choose value = .ok later := by
    have same : ({ settled with pending := .nothing } : Progress) = settled := by
      rw [← nothing]
    rw [Progress.settle] at settles
    rw [← same]
    exact settles
  exact count_ok counted

theorem written_apart {option value : String} (known : option = "--config" ∨ option = "-c")
    (plain : IsPlain value) : Written (.config value) [option, value] := by
  rcases plain with plain | rfl
  · rcases known with rfl | rfl
    · exact .spelled (.apart plain)
    · exact .spelled (.letterApart plain)
  · exact .dash known

theorem finish_run {choices : Choices} (ran : progress.finish = .run choices) :
    Exists fun settled => progress.settle = .ok settled ∧ settled.choices = choices := by
  rw [Progress.finish] at ran
  split at ran
  · cases ran
  · next settled settles =>
      cases ran
      exact ⟨settled, settles, rfl⟩

/-- Arguments that go on from some progress: they are uses of options once it is
settled, or they begin with the value that it awaits. -/
inductive GoesOn (progress : Progress) (choices : Choices) : List String -> Prop
  | settled {settled : Progress} {arguments : List String} : progress.settle = .ok settled ->
      RunsTo settled arguments choices -> GoesOn progress choices arguments
  | awaiting {value : String} {rest : List String} {settled : Progress} :
      progress.pending = .awaiting -> IsPlain value ->
      ({ progress with pending := .holding value } : Progress).settle = .ok settled ->
      RunsTo settled rest choices -> GoesOn progress choices (value :: rest)

/-- What goes on after an argument goes on with it. -/
theorem Takes.goesOn {argument : String} {rest : List String} {choices : Choices}
    (takes : Takes progress argument next) (later : GoesOn next choices rest) :
    GoesOn progress choices (argument :: rest) := by
  cases takes with
  | value awaiting plain =>
      cases later with
      | settled settles runs => exact .awaiting awaiting plain settles runs
      | awaiting impossible => cases impossible
  | option settles known =>
      cases later with
      | settled impossible => cases impossible
      | awaiting _ plain holds runs =>
          rcases settle_holding (settle_pending settles) holds with ⟨fresh, rfl⟩
          exact .settled settles (runs.cons fresh (written_apart known plain))
  | @use settled use settles fresh written =>
      cases later with
      | settled again runs =>
          rw [settle_using settles] at again
          cases again
          exact .settled settles (runs.cons fresh written)
      | awaiting awaiting =>
          have nothing := settle_pending (settle_using settles use)
          cases nothing.symm.trans awaiting

/-- Arguments that are run go on from the progress that they are taken from. -/
theorem goesOn_of_takeAll {arguments : List String} {choices : Choices}
    (ran : progress.takeAll arguments = .run choices) : GoesOn progress choices arguments := by
  induction arguments generalizing progress with
  | nil =>
      rw [Progress.takeAll] at ran
      rcases finish_run ran with ⟨settled, settles, rfl⟩
      exact .settled settles (runsTo_end .none)
  | cons argument rest inductionHypothesis =>
      rw [Progress.takeAll.eq_def] at ran
      simp only at ran
      split at ran
      · next dashes =>
          split at ran
          · rcases finish_run ran with ⟨settled, settles, rfl⟩
            rw [dashes]
            exact .settled settles (runsTo_end .dashes)
          · cases ran
      · split at ran
        · next answer stopped => exact absurd ran (take_error stopped choices)
        · next next taken => exact (take_takes taken).goesOn (inductionHypothesis ran)

end

/-- A command line is run exactly if it is nothing but uses of options, each at
most once. -/
theorem parse_eq_run_iff (arguments : List String) (choices : Choices) :
    parse arguments = .run choices ↔
      Exists fun uses => Accepted uses arguments ∧ (uses.map Use.flag).Nodup ∧
        chosen uses = choices := by
  constructor
  · intro ran
    have start : Progress.start.settle = .ok .start := rfl
    cases goesOn_of_takeAll ran with
    | settled settles runs =>
        cases start.symm.trans settles
        rcases runs with ⟨uses, accepted, _, once, chosen⟩
        exact ⟨uses, accepted, once, chosen⟩
    | awaiting impossible => cases impossible
  · rintro ⟨uses, accepted, once, rfl⟩
    exact parse_accepted accepted once

/-! ## Taking an option out -/

/-- The arguments of a use stand together, and those around them are accepted
without it. -/
theorem Accepted.without {first last : List Use} {use : Use} {arguments : List String}
    (accepted : Accepted (first ++ use :: last) arguments) :
    Exists fun before => Exists fun option => Exists fun after =>
      arguments = before ++ (option ++ after) ∧ Written use option ∧
      Accepted (first ++ last) (before ++ after) := by
  induction first generalizing arguments with
  | nil =>
      cases accepted with
      | use written rest => exact ⟨[], _, _, rfl, written, rest⟩
  | cons other first inductionHypothesis =>
      cases accepted with
      | @use _ _ leading _ written rest =>
          rcases inductionHypothesis rest with ⟨before, option, after, rfl, here, others⟩
          refine ⟨leading ++ before, option, after, (List.append_assoc ..).symm, here, ?_⟩
          rw [List.append_assoc]
          exact .use written others

/-- What is chosen without the option that names a file. -/
theorem chosen_without {first last : List Use} {path : String}
    (once : ((first ++ .config path :: last).map Use.flag).Nodup) :
    chosen (first ++ last) =
      { chosen (first ++ .config path :: last) with config := none } := by
  rw [List.map_append, List.map_cons, List.nodup_append, List.nodup_cons] at once
  have absent : forall use, use ∈ first ++ last -> use.flag ≠ .config := by
    intro use member same
    have known : Flag.config ∈ (first ++ last).map Use.flag := same ▸ List.mem_map_of_mem member
    rw [List.map_append, List.mem_append] at known
    rcases known with known | known
    · exact once.2.2 _ known _ List.mem_cons_self rfl
    · exact once.2.1.1 known
  have config : (chosen (first ++ last)).config = none := choose_config_of_absent absent _
  have runtime : (chosen (first ++ last)).showRuntime =
      (chosen (first ++ .config path :: last)).showRuntime := by
    rw [Bool.eq_iff_iff, chosen_showRuntime_iff, chosen_showRuntime_iff]
    simp only [List.mem_append, List.mem_cons, reduceCtorEq, false_or]
  exact Choices.ext config runtime

/-- The option that names a file stands somewhere among the arguments, and they
are also run without it. -/
theorem parse_without {arguments : List String} {choices : Choices}
    (ran : parse arguments = .run choices) {path : String} (named : choices.config = some path) :
    Exists fun before => Exists fun option => Exists fun after =>
      arguments = before ++ (option ++ after) ∧ Written (.config path) option ∧
      parse (before ++ after) = .run { choices with config := none } := by
  rcases (parse_eq_run_iff arguments choices).mp ran with ⟨uses, accepted, once, rfl⟩
  rcases List.append_of_mem ((chosen_config_iff once path).mp named) with ⟨first, last, rfl⟩
  rcases accepted.without with ⟨before, option, after, split, written, others⟩
  refine ⟨before, option, after, split, written, ?_⟩
  rw [← chosen_without once]
  apply parse_accepted others
  rw [List.map_append] at once ⊢
  exact once.sublist (List.Sublist.append_left (List.sublist_cons_self _ _) _)

end CommandLine
end Salutation
