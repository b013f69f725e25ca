import Salutation.CommandLine.Parse

namespace Salutation
namespace CommandLine

/-!
# Command lines that are run

A command line that is run is made of uses of the two options that choose
something, in any order and each of them at most once.  The option with a value
has several spellings.  Which spelling is used makes no difference to what is
read, except that a value in an argument of its own does not count before the
next option or the end is met.  Progress is therefore compared after it has
settled.
-/

/-- One use of an option that chooses something. -/
inductive Use where
  | showRuntime
  | config (value : String)
  deriving DecidableEq, Repr

namespace Use

/-- The option that is used. -/
def flag : Use -> Flag
  | .showRuntime => .showRuntime
  | .config _ => .config

/-- The choices with what is chosen by one more use. -/
def choose (choices : Choices) : Use -> Choices
  | .showRuntime => { choices with showRuntime := true }
  | .config value => { choices with config := some value }

end Use

/-- What is chosen by some uses. -/
def chosen (uses : List Use) : Choices := uses.foldl Use.choose ⟨none, false⟩

/-- The arguments of one use.  A value in an argument of its own does not start
with a dash, and one that follows the letter directly is not empty and does
not start with an equals sign. -/
inductive Spelled : Use -> List String -> Prop
  | showRuntime : Spelled .showRuntime ["--show-runtime"]
  | apart {value : String} :
      value.toList.head? ≠ some '-' -> Spelled (.config value) ["--config", value]
  | attached {value : String} : Spelled (.config value) ["--config=" ++ value]
  | letterApart {value : String} :
      value.toList.head? ≠ some '-' -> Spelled (.config value) ["-c", value]
  | letterAttached {value : String} :
      value ≠ "" -> value.toList.head? ≠ some '=' -> Spelled (.config value) ["-c" ++ value]
  | letterEquals {value : String} : Spelled (.config value) ["-c=" ++ value]

/-- Arguments that are the uses of options one after another. -/
inductive Arguments : List Use -> List String -> Prop
  | none : Arguments [] []
  | use {use : Use} {uses : List Use} {first rest : List String} :
      Spelled use first -> Arguments uses rest -> Arguments (use :: uses) (first ++ rest)

/-- What is no option, so that it may be a value in an argument of its own.  A
dash alone is none. -/
def IsPlain (argument : String) : Prop := argument.toList.head? ≠ some '-' ∨ argument = "-"

/-- The arguments of one use, with a dash alone as a value. -/
inductive Written : Use -> List String -> Prop
  | spelled {use : Use} {arguments : List String} : Spelled use arguments -> Written use arguments
  | dash {option : String} : option = "--config" ∨ option = "-c" ->
      Written (.config "-") [option, "-"]

/-- Arguments that are the uses of options one after another, and after them
perhaps two dashes, which end the options. -/
inductive Accepted : List Use -> List String -> Prop
  | none : Accepted [] []
  | dashes : Accepted [] ["--"]
  | use {use : Use} {uses : List Use} {first rest : List String} :
      Written use first -> Accepted uses rest -> Accepted (use :: uses) (first ++ rest)

theorem Arguments.accepted {uses : List Use} {arguments : List String}
    (written : Arguments uses arguments) : Accepted uses arguments := by
  induction written with
  | none => exact .none
  | use spelled _ inductionHypothesis => exact .use (.spelled spelled) inductionHypothesis

/-- Settled progress with one more use. -/
def Progress.using (settled : Progress) (use : Use) : Progress :=
  { settled with choices := Use.choose settled.choices use, used := settled.used ++ [use.flag] }

/-! ## One argument -/

section

variable {progress settled : Progress}

theorem settle_pending (settles : progress.settle = .ok settled) : settled.pending = .nothing := by
  unfold Progress.settle at settles
  split at settles
  · next nothing =>
      cases settles
      exact nothing
  · cases settles
  · unfold Progress.choose Progress.count at settles
    split at settles
    · cases settles
    · cases settles
      rfl

theorem count_eq {flag : Flag} (choices : Choices) (fresh : flag ∉ settled.used) :
    settled.count flag choices =
      .ok { settled with choices := choices, used := settled.used ++ [flag] } := by
  have absent : ¬ settled.used.contains flag = true :=
    fun contained => fresh (List.contains_iff_mem.mp contained)
  rw [Progress.count, if_neg absent]

theorem settle_using (settles : progress.settle = .ok settled) (use : Use) :
    (settled.using use).settle = .ok (settled.using use) := by
  have nothing : (settled.using use).pending = .nothing := by
    rw [Progress.using, settle_pending settles]
  rw [Progress.settle, nothing]

theorem take_showRuntime (settles : progress.settle = .ok settled)
    (fresh : .showRuntime ∉ settled.used) :
    progress.take "--show-runtime" = .ok (settled.using .showRuntime) := by
  have long : progress.take "--show-runtime" = progress.takeSwitch .showRuntime := rfl
  rw [long, Progress.takeSwitch, settles]
  simp only [count_eq _ fresh]
  rfl

theorem takeConfig_attached (settles : progress.settle = .ok settled)
    (fresh : .config ∉ settled.used) (value : String) :
    progress.takeConfig (some value) = .ok (settled.using (.config value)) := by
  simp only [Progress.takeConfig, settles, Progress.choose, count_eq _ fresh]
  rfl

theorem takeConfig_apart (settles : progress.settle = .ok settled) :
    progress.takeConfig none = .ok { settled with pending := .awaiting } := by
  simp only [Progress.takeConfig, settles]

theorem toList_attached (value : String) :
    ("--config=" ++ value).toList = '-' :: '-' :: ("config".toList ++ '=' :: value.toList) := by
  rw [String.toList_append]
  rfl

theorem toList_letterEquals (value : String) :
    ("-c=" ++ value).toList = '-' :: 'c' :: '=' :: value.toList := by
  rw [String.toList_append]
  rfl

theorem toList_letterAttached (value : String) :
    ("-c" ++ value).toList = '-' :: 'c' :: value.toList := by
  rw [String.toList_append]
  rfl

theorem take_attached (value : String) :
    progress.take ("--config=" ++ value) = progress.takeConfig (some value) := by
  have split := toList_attached value
  have long : progress.takeLong ("config".toList ++ '=' :: value.toList) =
      progress.takeConfig (some (String.ofList value.toList)) := rfl
  rw [String.ofList_toList] at long
  rw [Progress.take, split]
  exact long

theorem take_letterEquals (value : String) :
    progress.take ("-c=" ++ value) = progress.takeConfig (some value) := by
  have split := toList_letterEquals value
  have letters : progress.takeLetters ('c' :: '=' :: value.toList) =
      progress.takeConfig (some (String.ofList value.toList)) := rfl
  rw [String.ofList_toList] at letters
  rw [Progress.take, split]
  exact letters

/-- What follows the letter directly is the value. -/
theorem takeLetters_attached {first : Char} {others : List Char} (plain : first ≠ '=') :
    progress.takeLetters ('c' :: first :: others) =
      progress.takeConfig (some (String.ofList (first :: others))) := by
  rw [Progress.takeLetters]
  · rfl
  · intro impossible
    cases impossible
  · intro others same
    exact plain (List.cons.inj same).1

theorem take_letterAttached {value : String} (nonempty : value ≠ "")
    (plain : value.toList.head? ≠ some '=') :
    progress.take ("-c" ++ value) = progress.takeConfig (some value) := by
  have split := toList_letterAttached value
  have letters : progress.takeLetters ('c' :: value.toList) =
      progress.takeConfig (some (String.ofList value.toList)) := by
    cases characters : value.toList with
    | nil => exact absurd (String.toList_eq_nil_iff.mp characters) nonempty
    | cons first others =>
        rw [characters] at plain
        exact takeLetters_attached fun same => plain (congrArg some same)
  rw [String.ofList_toList] at letters
  rw [Progress.take, split]
  exact letters

theorem take_plain {value : String} (plain : IsPlain value) :
    progress.take value = progress.takePlain value := by
  rcases plain with plain | rfl
  case inr => rfl
  rw [Progress.take]
  split
  · next characters =>
      rw [characters] at plain
      exact absurd rfl plain
  · next characters =>
      rw [characters] at plain
      exact absurd rfl plain
  · rfl

theorem takeAll_cons {argument : String} {next : Progress} (other : argument ≠ "--")
    (taken : progress.take argument = .ok next) (rest : List String) :
    progress.takeAll (argument :: rest) = next.takeAll rest := by
  rw [Progress.takeAll.eq_def]
  simp only [if_neg other, taken]

theorem ne_dashes_of_plain {value : String} (plain : IsPlain value) : value ≠ "--" := by
  rintro rfl
  rcases plain with plain | same
  · exact plain rfl
  · exact absurd same (by decide)

/-- A value in an argument of its own counts when the progress is settled. -/
theorem takeAll_apart (settles : progress.settle = .ok settled) (fresh : .config ∉ settled.used)
    {option value : String} (other : option ≠ "--")
    (awaits : progress.take option = progress.takeConfig none) (plain : IsPlain value)
    (rest : List String) :
    Exists fun next : Progress =>
      progress.takeAll (option :: value :: rest) = next.takeAll rest ∧
      next.settle = .ok (settled.using (.config value)) := by
  have nothing := settle_pending settles
  have taken := awaits.trans (takeConfig_apart settles)
  refine ⟨{ settled with pending := .holding value }, ?_, ?_⟩
  · rw [takeAll_cons other taken, takeAll_cons (ne_dashes_of_plain plain) (take_plain plain)]
  · have chosen := @count_eq { settled with pending := .nothing } _
      (Use.choose settled.choices (.config value)) fresh
    rw [Progress.using, nothing]
    exact chosen

/-- An attached value counts at once. -/
theorem takeAll_attached (settles : progress.settle = .ok settled) (fresh : .config ∉ settled.used)
    {argument value : String} (other : argument ≠ "--")
    (attaches : progress.take argument = progress.takeConfig (some value)) (rest : List String) :
    Exists fun next : Progress =>
      progress.takeAll (argument :: rest) = next.takeAll rest ∧
      next.settle = .ok (settled.using (.config value)) := by
  have taken := attaches.trans (takeConfig_attached settles fresh value)
  exact ⟨_, takeAll_cons other taken rest, settle_using settles _⟩

/-- An argument is not the end of the options when it is longer. -/
theorem ne_dashes_of_toList {argument : String} {characters : List Char} {first : Char}
    (written : argument.toList = '-' :: first :: characters)
    (longer : first ≠ '-' ∨ characters ≠ []) :
    argument ≠ "--" := by
  rintro rfl
  cases written
  rcases longer with different | longer
  · exact different rfl
  · exact longer rfl

/-! ## All arguments -/

/-- One use of an option leaves the progress that its choice makes. -/
theorem takeAll_use {use : Use} {first : List String} (settles : progress.settle = .ok settled)
    (fresh : use.flag ∉ settled.used) (written : Written use first) (rest : List String) :
    Exists fun next : Progress => progress.takeAll (first ++ rest) = next.takeAll rest ∧
      next.settle = .ok (settled.using use) := by
  rcases written with spelled | option
  case dash =>
    rcases option with rfl | rfl <;>
      exact takeAll_apart settles fresh (by decide) rfl (.inr rfl) rest
  cases spelled with
  | showRuntime =>
      exact ⟨_, takeAll_cons (by decide) (take_showRuntime settles fresh) rest,
        settle_using settles _⟩
  | apart plain => exact takeAll_apart settles fresh (by decide) rfl (.inl plain) rest
  | letterApart plain => exact takeAll_apart settles fresh (by decide) rfl (.inl plain) rest
  | @attached value =>
      have other := ne_dashes_of_toList (toList_attached value)
        (.inr (List.append_ne_nil_of_right_ne_nil _ (List.cons_ne_nil _ _)))
      exact takeAll_attached settles fresh other (take_attached value) rest
  | @letterAttached value nonempty plain =>
      have other := ne_dashes_of_toList (toList_letterAttached value) (.inl (by decide))
      exact takeAll_attached settles fresh other (take_letterAttached nonempty plain) rest
  | @letterEquals value =>
      have other := ne_dashes_of_toList (toList_letterEquals value) (.inl (by decide))
      exact takeAll_attached settles fresh other (take_letterEquals value) rest

/-- Uses of different options, none of which has been used before, are all
read. -/
theorem takeAll_uses {uses : List Use} {arguments : List String}
    (accepted : Accepted uses arguments)
    (settles : progress.settle = .ok settled)
    (fresh : forall use, use ∈ uses -> use.flag ∉ settled.used)
    (once : (uses.map Use.flag).Nodup) :
    progress.takeAll arguments = .run (uses.foldl Use.choose settled.choices) := by
  induction accepted generalizing progress settled with
  | none =>
      rw [Progress.takeAll, Progress.finish, settles]
      rfl
  | dashes =>
      rw [Progress.takeAll, if_pos rfl, Progress.finish, settles]
      rfl
  | @use use uses first rest written _ inductionHypothesis =>
      rw [List.map_cons, List.nodup_cons] at once
      rcases takeAll_use settles (fresh use List.mem_cons_self) written rest with
        ⟨next, taken, later⟩
      rw [taken, List.foldl_cons]
      apply inductionHypothesis later
      · intro other member used
        rcases List.mem_append.mp used with used | used
        · exact fresh other (List.mem_cons_of_mem _ member) used
        · rw [List.mem_singleton] at used
          rw [← used] at once
          exact once.1 (List.mem_map_of_mem member)
      · exact once.2

end

/-- A command line of uses of different options is run with what they choose. -/
theorem parse_accepted {uses : List Use} {arguments : List String}
    (accepted : Accepted uses arguments) (once : (uses.map Use.flag).Nodup) :
    parse arguments = .run (chosen uses) := by
  have settles : Progress.start.settle = .ok .start := rfl
  exact takeAll_uses accepted settles (fun _ _ => List.not_mem_nil) once

attribute [ext] Choices

theorem choose_showRuntime_iff (uses : List Use) (choices : Choices) :
    (uses.foldl Use.choose choices).showRuntime = true ↔
      choices.showRuntime = true ∨ .showRuntime ∈ uses := by
  induction uses generalizing choices with
  | nil => simp only [List.foldl_nil, List.not_mem_nil, or_false]
  | cons use uses inductionHypothesis =>
      rw [List.foldl_cons, inductionHypothesis, List.mem_cons]
      cases use with
      | showRuntime => simp only [Use.choose, true_or, or_true]
      | config value => simp only [Use.choose, reduceCtorEq, false_or]

theorem chosen_showRuntime_iff (uses : List Use) :
    (chosen uses).showRuntime = true ↔ .showRuntime ∈ uses := by
  rw [chosen, choose_showRuntime_iff]
  simp only [Bool.false_eq_true, false_or]

theorem choose_config_of_absent {uses : List Use}
    (absent : forall use, use ∈ uses -> use.flag ≠ .config) (choices : Choices) :
    (uses.foldl Use.choose choices).config = choices.config := by
  induction uses generalizing choices with
  | nil => rfl
  | cons use uses inductionHypothesis =>
      have others := fun use member => absent use (List.mem_cons_of_mem _ member)
      rw [List.foldl_cons, inductionHypothesis others]
      cases use with
      | showRuntime => rfl
      | config value => exact absurd rfl (absent _ List.mem_cons_self)

/-- The file that is chosen is the one that is named. -/
theorem choose_config_of_mem {uses : List Use} (once : (uses.map Use.flag).Nodup) {value : String}
    (member : .config value ∈ uses) (choices : Choices) :
    (uses.foldl Use.choose choices).config = some value := by
  induction uses generalizing choices with
  | nil => exact absurd member List.not_mem_nil
  | cons use uses inductionHypothesis =>
      rw [List.map_cons, List.nodup_cons] at once
      rw [List.foldl_cons]
      rcases List.mem_cons.mp member with rfl | member
      · rw [choose_config_of_absent]
        · rfl
        · intro other found same
          have known := List.mem_map_of_mem (f := Use.flag) found
          rw [same] at known
          exact once.1 known
      · exact inductionHypothesis once.2 member _

theorem chosen_config_iff {uses : List Use} (once : (uses.map Use.flag).Nodup) (value : String) :
    (chosen uses).config = some value ↔ .config value ∈ uses := by
  constructor
  · intro found
    by_cases absent : forall use, use ∈ uses -> use.flag ≠ .config
    · rw [chosen, choose_config_of_absent absent] at found
      cases found
    · simp only [Classical.not_forall, Classical.not_not] at absent
      rcases absent with ⟨use, member, known⟩
      cases use with
      | showRuntime => cases known
      | config other =>
          rw [chosen, choose_config_of_mem once member, Option.some.injEq] at found
          rw [← found]
          exact member
  · exact fun member => choose_config_of_mem once member _

end CommandLine
end Salutation
