import Salutation.Program

namespace Salutation

/-!
# What a run looks at

A run looks at the setting of the filter before anything else.  A command line
that is not to be run needs nothing more.  Otherwise the file of the settings is
looked at, if one is named, and then standard input, which is given the timeout
of the settings that are used and is read once unless it is a terminal.  What a
run reports follows from these settings and from whom standard input is
resolved to.
-/

namespace Addressee

/-- A source is asked for its bytes unless it says that it is a terminal. -/
theorem questions_inquiry (source : Stream.Source) :
    inquiry.questions source.answer =
      .isTerminal :: if source.terminal then [] else [.readAll] := by
  rcases source with ⟨terminal, reading⟩
  cases terminal with
  | true => rfl
  | false =>
      cases reading with
      | error overflow => rfl
      | ok reading => rfl

/-- What a source tells is the name and the entries of its resolution. -/
theorem run_inquiry (source : Stream.Source) :
    inquiry.run source.answer =
      (resolve source).map fun resolution => ⟨resolution.name, resolution.entries⟩ := by
  rw [resolve]
  cases inquiry.run source.answer with
  | error overflow => rfl
  | ok told => rfl

end Addressee

namespace Program

open CommandLine

section

variable {arguments : List String} {choices : Choices} {surroundings : Surroundings}

/-! ## The settings and the addressee -/

theorem run_findSettings (choices : Choices) (surroundings : Surroundings) :
    (findSettings choices).run surroundings.answer =
      .ok (settings surroundings.files choices) := by
  rw [findSettings, settings]
  cases choices.config with
  | none => rfl
  | some path => rfl

/-- What is looked at for settings: the path in the command line, if there is
one. -/
theorem questions_findSettings (choices : Choices) (surroundings : Surroundings) :
    (findSettings choices).questions surroundings.answer =
      choices.config.toList.map Question.node := by
  rw [findSettings]
  cases choices.config with
  | none => rfl
  | some path => rfl

theorem run_findAddressee (timeout : Duration) (surroundings : Surroundings) :
    (findAddressee timeout).run surroundings.answer =
      Addressee.inquiry.run (surroundings.source timeout).answer :=
  Inquiry.run_via surroundings.answer (Question.input timeout) Addressee.inquiry

/-- What standard input is asked is what any source is asked. -/
theorem questions_findAddressee (timeout : Duration) (surroundings : Surroundings) :
    (findAddressee timeout).questions surroundings.answer =
      .input timeout .isTerminal ::
        if surroundings.terminal then [] else [.input timeout .readAll] := by
  have questions := Addressee.questions_inquiry (surroundings.source timeout)
  have asked := Inquiry.questions_via surroundings.answer (Question.input timeout)
    Addressee.inquiry
  refine asked.trans ((congrArg (List.map (Question.input timeout)) questions).trans ?_)
  have same : (surroundings.source timeout).terminal = surroundings.terminal := rfl
  rw [same]
  cases surroundings.terminal with
  | true => rfl
  | false => rfl

/-! ## Greetings -/

/-- A greeting is determined by the choices, by the settings that are used and by
whom standard input is resolved to before their deadline. -/
theorem run_findGreeting (choices : Choices) (surroundings : Surroundings) :
    let chosen := settings surroundings.files choices
    (findGreeting choices).run surroundings.answer =
      (Addressee.resolve (surroundings.source chosen.result.timeout)).map fun resolution =>
        ⟨line choices chosen.result resolution.name, chosen.entries ++ resolution.entries⟩ := by
  intro chosen
  have told := run_findAddressee chosen.result.timeout surroundings
  rw [Addressee.run_inquiry] at told
  rw [findGreeting, Inquiry.run_bind, run_findSettings]
  refine (Inquiry.run_bind _ _ _).trans ?_
  rw [told]
  cases Addressee.resolve (surroundings.source chosen.result.timeout) with
  | error overflow => rfl
  | ok resolution => rfl

/-- What is looked at for a greeting: the file of the settings, if one is named,
and standard input. -/
theorem questions_findGreeting (choices : Choices) (surroundings : Surroundings) :
    let timeout := (settings surroundings.files choices).result.timeout
    (findGreeting choices).questions surroundings.answer =
      choices.config.toList.map Question.node ++
        .input timeout .isTerminal ::
          if surroundings.terminal then [] else [.input timeout .readAll] := by
  intro timeout
  rw [findGreeting, Inquiry.questions_bind, run_findSettings, questions_findSettings]
  simp only
  rw [Inquiry.questions_map, questions_findAddressee]

/-! ## Runs -/

theorem run_eq (arguments : List String) (surroundings : Surroundings) :
    run arguments surroundings =
      (findReport surroundings.filterSetting (parse arguments)).run surroundings.answer := rfl

/-- The setting of the filter comes first, whatever the command line is. -/
theorem asked_eq (arguments : List String) (surroundings : Surroundings) :
    asked arguments surroundings = .filterSetting ::
      (findReport surroundings.filterSetting (parse arguments)).questions surroundings.answer := rfl

/-- A command line that is run leads to the report of its greeting. -/
theorem run_eq_map (accepted : parse arguments = .run choices) :
    run arguments surroundings =
      ((findGreeting choices).run surroundings.answer).map (report surroundings.filterSetting) := by
  rw [run_eq, accepted, findReport, Inquiry.run_bind]
  cases (findGreeting choices).run surroundings.answer with
  | error overflow => rfl
  | ok greeting => rfl

/-- What a run reports follows from its settings and its addressee. -/
theorem run_of_resolved (accepted : parse arguments = .run choices)
    {chosen : Diagnostics.Logged Settings} (uses : settings surroundings.files choices = chosen)
    {resolution : Addressee.Resolution}
    (resolved : Addressee.resolve (surroundings.source chosen.result.timeout) = .ok resolution) :
    run arguments surroundings = .ok (report surroundings.filterSetting
      ⟨line choices chosen.result resolution.name, chosen.entries ++ resolution.entries⟩) := by
  rw [run_eq_map accepted, run_findGreeting, uses, resolved]
  rfl

/-- A run that comes to an end has an addressee. -/
theorem resolved_of_run (accepted : parse arguments = .run choices) {report : Report}
    (ran : run arguments surroundings = .ok report) :
    Exists fun resolution =>
      Addressee.resolve (surroundings.source
        (settings surroundings.files choices).result.timeout) = .ok resolution := by
  rw [run_eq_map accepted, run_findGreeting] at ran
  cases resolved : Addressee.resolve
      (surroundings.source (settings surroundings.files choices).result.timeout) with
  | error overflow =>
      rw [resolved] at ran
      cases ran
  | ok resolution => exact ⟨resolution, rfl⟩

/-- What a run looks at, if its command line is run. -/
theorem asked_of_accepted (accepted : parse arguments = .run choices) :
    let timeout := (settings surroundings.files choices).result.timeout
    asked arguments surroundings =
      .filterSetting :: (choices.config.toList.map Question.node ++
        .input timeout .isTerminal ::
          if surroundings.terminal then [] else [.input timeout .readAll]) := by
  rw [asked_eq, accepted, findReport, Inquiry.questions_map, questions_findGreeting]

end

end Program
end Salutation
