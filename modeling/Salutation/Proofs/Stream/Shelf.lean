import Salutation.Stream.Shelf
import Salutation.Proofs.Addressee.Naming

namespace Salutation
namespace Stream
namespace Shelf

/-!
# What the buffers on a shelf still hold

A buffer gives its bytes away once, and a copy starts with what its source
holds when it is taken.  What a buffer still holds can therefore be told from
the steps so far, without any shelf: from the buffer that it comes from, and
from the reads of it and of its sources before they were copied.

Everything that is asked about a buffer follows from these two things.  So a
step on one buffer makes no difference to any other, except to those that are
copied from it afterwards.
-/

/-! ## Steps and numbers -/

/-- Whether a step puts a buffer on the shelf. -/
def Step.adds : Step -> Bool
  | .copy _ => true
  | .add _ => true
  | _ => false

/-- The number of the buffer that a step works on. -/
def Step.subject? : Step -> Option Nat
  | .isTerminal index => some index
  | .readAll index => some index
  | .copy index => some index
  | .add _ => none
  | .resolve index => some index

/-- How many buffers some steps put on a shelf, which is also the number of the
next one on a shelf that was empty. -/
def stock (steps : List Step) : Nat := steps.countP Step.adds

/-- Every step works on a buffer that is there by then. -/
def InStock (steps : List Step) : Prop :=
  forall before step after, steps = before ++ step :: after ->
    forall index, step.subject? = some index -> index < stock before

theorem stock_append (first last : List Step) : stock (first ++ last) = stock first + stock last :=
  List.countP_append

theorem stock_cons (step : Step) (steps : List Step) :
    stock (step :: steps) = (if step.adds then 1 else 0) + stock steps := by
  rw [stock, List.countP_cons, Nat.add_comm, stock]

/-- A step that adds nothing shifts no numbers. -/
theorem stock_insert {step : Step} (plain : step.adds = false) (before since : List Step) :
    stock (before ++ step :: since) = stock (before ++ since) := by
  rw [stock_append, stock_append, stock_cons, plain]
  simp only [Bool.false_eq_true, if_false, Nat.zero_add]

/-- A step of two successive runs stands in the first or in the second. -/
theorem split_append {first last before after : List Step} {step : Step}
    (same : first ++ last = before ++ step :: after) :
    (Exists fun between => first = before ++ step :: between ∧ after = between ++ last) ∨
      Exists fun between => before = first ++ between ∧ last = between ++ step :: after := by
  rcases List.append_eq_append_iff.mp same with ⟨between, rfl, rest⟩ | ⟨between, rfl, rest⟩
  · exact .inr ⟨between, rfl, rest⟩
  · cases between with
    | nil => exact .inr ⟨[], (List.append_nil _).symm ▸ (List.append_nil _).symm, rest.symm⟩
    | cons other between =>
        cases rest
        exact .inl ⟨between, rfl, rfl⟩

/-- A number is given to one buffer only. -/
theorem split_unique {before other after others : List Step} {step another : Step}
    (adds : step.adds = true) (also : another.adds = true)
    (same : before ++ step :: after = other ++ another :: others)
    (level : stock before = stock other) : before = other ∧ step = another ∧ after = others := by
  rcases split_append same with ⟨between, rfl, rfl⟩ | ⟨between, rfl, rest⟩
  · rw [stock_append, stock_cons, also, if_pos rfl] at level
    omega
  · cases between with
    | nil =>
        cases rest
        exact ⟨(List.append_nil _).symm, rfl, rfl⟩
    | cons first between =>
        cases rest
        rw [stock_append, stock_cons, adds, if_pos rfl] at level
        omega

/-! ## What comes down to a copy -/

/-- Something is true of a buffer after some steps: of the buffer itself, or, if
it is a copy, of its source at the time when the copy was taken. -/
inductive ByDescent (holds : List Step -> Nat -> Prop) : List Step -> Nat -> Prop
  | itself {steps : List Step} {index : Nat} : holds steps index -> ByDescent holds steps index
  | copied {before : List Step} {source : Nat} (since : List Step) :
      ByDescent holds before source ->
      ByDescent holds (before ++ .copy source :: since) (stock before)

/-- A buffer has been read. -/
def IsRead (steps : List Step) (index : Nat) : Prop := .readAll index ∈ steps

/-- A buffer has been put on the shelf as it is. -/
def IsAdded (root : Buffer) (steps : List Step) (index : Nat) : Prop :=
  Exists fun before => Exists fun since =>
    steps = before ++ .add root :: since ∧ index = stock before

/-- The bytes of a buffer have been given away, by itself or by one of its
sources before the copy that leads to it was taken. -/
def Delivered (steps : List Step) (index : Nat) : Prop := ByDescent IsRead steps index

/-- The buffer that a buffer comes from. -/
def Origin (steps : List Step) (index : Nat) (root : Buffer) : Prop :=
  ByDescent (IsAdded root) steps index

section

variable {holds : List Step -> Nat -> Prop}

theorem byDescent_iff (steps : List Step) (index : Nat) :
    ByDescent holds steps index ↔
      holds steps index ∨ Exists fun before => Exists fun source => Exists fun since =>
        steps = before ++ .copy source :: since ∧ index = stock before ∧
          ByDescent holds before source := by
  constructor
  · intro descends
    cases descends with
    | itself here => exact .inl here
    | copied since earlier => exact .inr ⟨_, _, since, rfl, rfl, earlier⟩
  · rintro (here | ⟨before, source, since, rfl, rfl, earlier⟩)
    · exact .itself here
    · exact .copied since earlier

/-- What came down to a buffer is settled when the buffer is there. -/
theorem byDescent_append_iff {steps more : List Step} {index : Nat} (old : index < stock steps) :
    ByDescent holds (steps ++ more) index ↔
      holds (steps ++ more) index ∨ Exists fun before => Exists fun source => Exists fun since =>
        steps = before ++ .copy source :: since ∧ index = stock before ∧
          ByDescent holds before source := by
  rw [byDescent_iff]
  refine or_congr_right ?_
  constructor
  · rintro ⟨before, source, since, split, rfl, earlier⟩
    rcases split_append split with ⟨between, rfl, _⟩ | ⟨between, rfl, _⟩
    · exact ⟨before, source, between, rfl, rfl, earlier⟩
    · rw [stock_append] at old
      omega
  · rintro ⟨before, source, since, rfl, rfl, earlier⟩
    exact ⟨before, source, since ++ more, List.append_assoc .., rfl, earlier⟩

theorem origin_append_iff {steps : List Step} {index : Nat} (old : index < stock steps)
    (more : List Step) (root : Buffer) :
    Origin (steps ++ more) index root ↔ Origin steps index root := by
  have same : IsAdded root (steps ++ more) index ↔ IsAdded root steps index := by
    constructor
    · rintro ⟨before, since, split, rfl⟩
      rcases split_append split with ⟨between, rfl, _⟩ | ⟨between, rfl, _⟩
      · exact ⟨before, between, rfl, rfl⟩
      · rw [stock_append] at old
        omega
    · rintro ⟨before, since, rfl, rfl⟩
      exact ⟨before, since ++ more, List.append_assoc .., rfl⟩
  rw [Origin, byDescent_append_iff old, same, ← byDescent_iff, Origin]

theorem delivered_append_iff {steps : List Step} {index : Nat} (old : index < stock steps)
    (more : List Step) :
    Delivered (steps ++ more) index ↔ Delivered steps index ∨ .readAll index ∈ more := by
  rw [Delivered, byDescent_append_iff old, IsRead, List.mem_append, or_right_comm, Delivered,
    byDescent_iff, IsRead]

/-- What comes down to a new copy is what is true of its source. -/
theorem byDescent_copy_iff (steps : List Step) (source : Nat) :
    ByDescent holds (steps ++ [.copy source]) (stock steps) ↔
      holds (steps ++ [.copy source]) (stock steps) ∨ ByDescent holds steps source := by
  rw [byDescent_iff]
  refine or_congr_right ?_
  constructor
  · rintro ⟨before, other, since, split, level, earlier⟩
    rcases split_unique rfl rfl split level with ⟨rfl, same, _⟩
    cases same
    exact earlier
  · intro earlier
    exact ⟨steps, source, [], rfl, rfl, earlier⟩

/-- Nothing comes down to a new buffer that is no copy. -/
theorem byDescent_add_iff (steps : List Step) (buffer : Buffer) :
    ByDescent holds (steps ++ [.add buffer]) (stock steps) ↔
      holds (steps ++ [.add buffer]) (stock steps) := by
  rw [byDescent_iff]
  constructor
  · rintro (here | ⟨before, source, since, split, level, _⟩)
    · exact here
    · cases (split_unique rfl rfl split level).2.1
  · exact .inl

end

/-! ## A step more or less -/

section

variable {before since : List Step} {step : Step}

/-- A buffer is the one of a number, or comes from it by copies that are taken
after some steps. -/
inductive Stems (before : List Step) (source : Nat) : List Step -> Nat -> Prop
  | itself (since : List Step) : Stems before source since source
  | copied {between : List Step} {index : Nat} (later : List Step) :
      Stems before source between index ->
      Stems before source (between ++ .copy index :: later) (stock (before ++ between))

/-- One step more takes nothing away from what comes down to a buffer. -/
theorem ByDescent.insert {holds : List Step -> Nat -> Prop} (plain : step.adds = false)
    (more : forall since index, holds (before ++ since) index ->
      holds (before ++ step :: since) index)
    {index : Nat} (descends : ByDescent holds (before ++ since) index) :
    ByDescent holds (before ++ step :: since) index := by
  generalize same : before ++ since = steps at descends
  induction descends generalizing since with
  | itself here =>
      rw [← same] at here
      exact .itself (more _ _ here)
  | @copied earlier source later prior inductionHypothesis =>
      rcases split_append same with ⟨between, rfl, rfl⟩ | ⟨between, rfl, rfl⟩
      · rw [List.append_assoc, List.cons_append]
        exact .copied _ prior
      · rw [← stock_insert plain, ← List.cons_append, ← List.append_assoc]
        exact .copied later (inductionHypothesis rfl)

/-- One step less takes nothing away either, from buffers that are apart from
what the step was about, as long as their sources are. -/
theorem ByDescent.remove {holds : List Step -> Nat -> Prop}
    (apart : List Step -> Nat -> Prop) (plain : step.adds = false)
    (sources : forall between parent later,
      apart (between ++ .copy parent :: later) (stock (before ++ between)) -> apart between parent)
    (less : forall since index, apart since index -> holds (before ++ step :: since) index ->
      holds (before ++ since) index)
    {index : Nat} (aside : apart since index)
    (descends : ByDescent holds (before ++ step :: since) index) :
    ByDescent holds (before ++ since) index := by
  generalize same : before ++ step :: since = steps at descends
  induction descends generalizing since with
  | itself here =>
      rw [← same] at here
      exact .itself (less _ _ aside here)
  | @copied earlier parent later prior inductionHypothesis =>
      rcases split_append same with ⟨between, rfl, rfl⟩ | ⟨between, rfl, rest⟩
      · rw [List.append_assoc, List.cons_append]
        exact .copied _ prior
      · cases between with
        | nil =>
            cases rest
            cases plain
        | cons first between =>
            rw [List.cons_append, List.cons.injEq] at rest
            rcases rest with ⟨rfl, rfl⟩
            rw [stock_insert plain] at aside ⊢
            rw [← List.append_assoc]
            exact .copied later (inductionHypothesis (sources _ _ _ aside) rfl)

/-- A step that adds nothing makes no difference to where a buffer comes from. -/
theorem origin_insert_iff (plain : step.adds = false) (index : Nat) (root : Buffer) :
    Origin (before ++ step :: since) index root ↔ Origin (before ++ since) index root := by
  constructor
  · apply ByDescent.remove (fun _ _ => True) plain (fun _ _ _ _ => trivial) _ trivial
    rintro since index - ⟨earlier, later, split, rfl⟩
    rcases split_append split with ⟨between, rfl, rfl⟩ | ⟨between, rfl, rest⟩
    · exact ⟨earlier, between ++ since, List.append_assoc .., rfl⟩
    · cases between with
      | nil =>
          cases rest
          cases plain
      | cons first between =>
          rw [List.cons_append, List.cons.injEq] at rest
          rcases rest with ⟨rfl, rfl⟩
          exact ⟨before ++ between, later, (List.append_assoc ..).symm, stock_insert plain _ _⟩
  · apply ByDescent.insert plain
    rintro since index ⟨earlier, later, split, rfl⟩
    rcases split_append split with ⟨between, rfl, rfl⟩ | ⟨between, rfl, rfl⟩
    · exact ⟨earlier, between ++ step :: since, List.append_assoc .., rfl⟩
    · exact ⟨before ++ step :: between, later, (List.append_assoc before (step :: between) _).symm,
        (stock_insert plain _ _).symm⟩

/-- It makes no difference to whether the bytes have been given away either,
unless it reads the buffer or one that this one comes from afterwards. -/
theorem delivered_insert_iff (plain : step.adds = false) {index : Nat}
    (aside : forall source, step = .readAll source -> ¬ Stems before source since index) :
    Delivered (before ++ step :: since) index ↔ Delivered (before ++ since) index := by
  constructor
  · refine ByDescent.remove (fun since index =>
      forall source, step = .readAll source -> ¬ Stems before source since index) plain ?_ ?_ aside
    · intro between parent later aside source read stems
      exact aside source read (.copied later stems)
    · intro since index aside read
      rcases List.mem_append.mp read with earlier | later
      · exact List.mem_append_left _ earlier
      · rcases List.mem_cons.mp later with same | later
        · exact absurd (.itself since) (aside index same.symm)
        · exact List.mem_append_right _ later
  · apply ByDescent.insert plain
    intro since index read
    rcases List.mem_append.mp read with earlier | later
    · exact List.mem_append_left _ earlier
    · exact List.mem_append_right _ (List.mem_cons_of_mem _ later)

end

/-! ## What is left -/

/-- The bytes that a buffer still holds. -/
inductive Left (steps : List Step) (index : Nat) : Bytes -> Prop
  | whole {root : Buffer} :
      Origin steps index root -> ¬ Delivered steps index -> Left steps index root.content
  | nothing : Delivered steps index -> Left steps index []

/-- The answer that a step gets after some others, according to these alone. -/
inductive Due (before : List Step) : Step -> Answer -> Prop
  | isTerminal {index : Nat} {root : Buffer} :
      Origin before index root -> Due before (.isTerminal index) (.flag root.terminal)
  | readAll {index : Nat} {bytes : Bytes} :
      Left before index bytes -> Due before (.readAll index) (.bytes bytes)
  | copy (index : Nat) : Due before (.copy index) (.index (stock before))
  | add (buffer : Buffer) : Due before (.add buffer) (.index (stock before))
  | resolveTerminal {index : Nat} {root : Buffer} :
      Origin before index root -> root.terminal = true ->
      Due before (.resolve index) (.name "World")
  | resolve {index : Nat} {root : Buffer} {bytes : Bytes} {name : String} :
      Origin before index root -> root.terminal = false -> Left before index bytes ->
      Addressee.Greets bytes name -> Due before (.resolve index) (.name name)

/-- A buffer comes from one buffer only. -/
theorem Origin.unique {steps : List Step} {index : Nat} {root other : Buffer}
    (origin : Origin steps index root) (also : Origin steps index other) : root = other := by
  induction origin with
  | itself here =>
      rcases here with ⟨before, since, rfl, rfl⟩
      rcases (byDescent_iff _ _).mp also with ⟨earlier, later, split, level⟩ |
        ⟨earlier, source, later, split, level, _⟩
      · cases (split_unique rfl rfl split level).2.1
        rfl
      · cases (split_unique rfl rfl split level).2.1
  | copied since _ inductionHypothesis =>
      rcases (byDescent_iff _ _).mp also with ⟨earlier, later, split, level⟩ |
        ⟨earlier, source, later, split, level, prior⟩
      · cases (split_unique rfl rfl split level).2.1
      · rcases split_unique rfl rfl split level with ⟨rfl, same, _⟩
        cases same
        exact inductionHypothesis prior

theorem Left.unique {steps : List Step} {index : Nat} {bytes others : Bytes}
    (left : Left steps index bytes) (also : Left steps index others) : bytes = others := by
  cases left with
  | whole origin kept =>
      cases also with
      | whole another _ => rw [origin.unique another]
      | nothing delivered => exact absurd delivered kept
  | nothing delivered =>
      cases also with
      | whole _ kept => exact absurd delivered kept
      | nothing _ => rfl

/-- A step is due one answer only. -/
theorem Due.unique {before : List Step} {step : Step} {answer other : Answer}
    (due : Due before step answer) (also : Due before step other) : answer = other := by
  cases due with
  | isTerminal origin =>
      cases also with
      | isTerminal another => rw [origin.unique another]
  | readAll left =>
      cases also with
      | readAll others => rw [left.unique others]
  | copy index =>
      cases also with
      | copy _ => rfl
  | add buffer =>
      cases also with
      | add _ => rfl
  | resolveTerminal origin terminal =>
      cases also with
      | resolveTerminal _ _ => rfl
      | resolve another plain _ _ =>
          rw [origin.unique another, plain] at terminal
          cases terminal
  | resolve origin plain left greets =>
      cases also with
      | resolveTerminal another terminal =>
          rw [origin.unique another, terminal] at plain
          cases plain
      | resolve _ _ others greetsAlso =>
          rw [left.unique others] at greets
          rw [greets.unique greetsAlso]

/-! ## What a shelf holds -/

/-- The shelf that some steps lead to, when all of them have answers. -/
inductive Performs : List Step -> Shelf -> Prop
  | start : Performs [] []
  | step {steps : List Step} {shelf next : Shelf} {step : Step} {answer : Answer} :
      Performs steps shelf -> shelf.perform step = some (answer, next) ->
      Performs (steps ++ [step]) next

/-- A buffer is as the steps so far have left it. -/
inductive Holds (steps : List Step) (index : Nat) : Buffer -> Prop
  | whole {root : Buffer} :
      Origin steps index root -> ¬ Delivered steps index -> Holds steps index root
  | drained {root : Buffer} :
      Origin steps index root -> Delivered steps index -> Holds steps index root.drained

/-- A shelf is as the steps so far have left it. -/
structure Matches (steps : List Step) (shelf : Shelf) : Prop where
  length : shelf.length = stock steps
  read : forall index, .readAll index ∈ steps -> index < stock steps
  holds : forall index buffer, shelf[index]? = some buffer -> Holds steps index buffer

section

variable {steps : List Step} {shelf next : Shelf} {index : Nat} {buffer : Buffer} {step : Step}
variable {answer : Answer}

theorem Holds.origin (held : Holds steps index buffer) :
    Exists fun root => Origin steps index root ∧ root.terminal = buffer.terminal := by
  cases held with
  | whole origin _ => exact ⟨_, origin, rfl⟩
  | drained origin _ => exact ⟨_, origin, rfl⟩

theorem Holds.left (held : Holds steps index buffer) : Left steps index buffer.content := by
  cases held with
  | whole origin kept => exact .whole origin kept
  | drained _ delivered => exact .nothing delivered

/-- The name that a copy of a buffer leads to is the one that its bytes greet,
unless it is a terminal. -/
theorem addressee_terminal (terminal : buffer.terminal = true) : addressee buffer = "World" := by
  rw [addressee, Buffer.toSource, terminal, Source.ofBytes, Addressee.resolve_terminal]
  rfl

theorem greets_addressee (plain : buffer.terminal = false) :
    Addressee.Greets buffer.content (addressee buffer) := by
  have named : addressee buffer =
      (Addressee.ofBytes buffer.content).toOption.getD defaultName := by
    rw [← Addressee.conclude_name 1 [], addressee, Buffer.toSource, plain, Source.ofBytes,
      Addressee.resolve_reading]
    rfl
  rw [named]
  exact Addressee.greets_ofBytes _

/-! ## What one step does -/

/-- A step gets the answer that it is due. -/
theorem Matches.due (agrees : Matches steps shelf)
    (performed : shelf.perform step = some (answer, next)) : Due steps step answer := by
  cases step with
  | isTerminal index =>
      rcases Option.map_eq_some_iff.mp performed with ⟨buffer, found, same⟩
      cases same
      rcases (agrees.holds index buffer found).origin with ⟨root, origin, terminal⟩
      rw [← terminal]
      exact .isTerminal origin
  | readAll index =>
      rcases Option.map_eq_some_iff.mp performed with ⟨buffer, found, same⟩
      cases same
      exact .readAll (agrees.holds index buffer found).left
  | copy index =>
      rcases Option.map_eq_some_iff.mp performed with ⟨buffer, found, same⟩
      cases same
      rw [agrees.length]
      exact .copy index
  | add buffer =>
      cases performed
      rw [agrees.length]
      exact .add buffer
  | resolve index =>
      rcases Option.map_eq_some_iff.mp performed with ⟨buffer, found, same⟩
      cases same
      have held := agrees.holds index buffer found
      rcases held.origin with ⟨root, origin, terminal⟩
      cases flagged : buffer.terminal with
      | true =>
          rw [addressee_terminal flagged]
          exact .resolveTerminal origin (terminal.trans flagged)
      | false => exact .resolve origin (terminal.trans flagged) held.left (greets_addressee flagged)

/-- A buffer that is there stays as it is, unless it is read. -/
theorem Holds.later (held : Holds steps index buffer) (old : index < stock steps)
    (other : step ≠ .readAll index) : Holds (steps ++ [step]) index buffer := by
  have same : Delivered (steps ++ [step]) index ↔ Delivered steps index := by
    rw [delivered_append_iff old, List.mem_singleton, or_iff_left (Ne.symm other)]
  cases held with
  | whole origin kept =>
      exact .whole ((origin_append_iff old _ _).mpr origin) (fun given => kept (same.mp given))
  | drained origin delivered =>
      exact .drained ((origin_append_iff old _ _).mpr origin) (same.mpr delivered)

/-- A buffer that is read is drained, if it was not drained before. -/
theorem Holds.drain (held : Holds steps index buffer) (old : index < stock steps) :
    Holds (steps ++ [.readAll index]) index buffer.drained := by
  have delivered : Delivered (steps ++ [.readAll index]) index :=
    .itself (List.mem_append_right _ (List.mem_singleton_self _))
  cases held with
  | whole origin _ => exact .drained ((origin_append_iff old _ _).mpr origin) delivered
  | @drained root origin _ =>
      have again : root.drained.drained = root.drained := rfl
      rw [again]
      exact .drained ((origin_append_iff old _ _).mpr origin) delivered

/-- The number of a buffer that is added has not been read before. -/
theorem Matches.unread (agrees : Matches steps shelf) (adds : step.adds = true) :
    ¬ IsRead (steps ++ [step]) (stock steps) := by
  intro read
  rcases List.mem_append.mp read with earlier | now
  · exact Nat.lt_irrefl _ (agrees.read _ earlier)
  · rw [← List.mem_singleton.mp now] at adds
    cases adds

/-- A copy starts as its source is. -/
theorem Holds.copy (held : Holds steps index buffer)
    (unread : ¬ IsRead (steps ++ [.copy index]) (stock steps)) :
    Holds (steps ++ [.copy index]) (stock steps) buffer := by
  have same : Delivered (steps ++ [.copy index]) (stock steps) ↔ Delivered steps index := by
    rw [Delivered, byDescent_copy_iff, or_iff_right unread, Delivered]
  cases held with
  | whole origin kept =>
      exact .whole ((byDescent_copy_iff _ _).mpr (.inr origin)) (fun given => kept (same.mp given))
  | drained origin delivered =>
      exact .drained ((byDescent_copy_iff _ _).mpr (.inr origin)) (same.mpr delivered)

theorem holds_add (unread : ¬ IsRead (steps ++ [.add buffer]) (stock steps)) :
    Holds (steps ++ [.add buffer]) (stock steps) buffer :=
  .whole (.itself ⟨steps, [], rfl, rfl⟩) (fun given => unread ((byDescent_add_iff _ _).mp given))

theorem Matches.old (agrees : Matches steps shelf) (found : shelf[index]? = some buffer) :
    index < stock steps := by
  rw [← agrees.length]
  exact (List.getElem?_eq_some_iff.mp found).1

/-- A step that adds nothing and reads nothing leaves the shelf as it was. -/
theorem Matches.keep (agrees : Matches steps shelf) (plain : step.adds = false)
    (quiet : forall index, step ≠ .readAll index) : Matches (steps ++ [step]) shelf where
  length := by rw [stock_insert plain, List.append_nil, agrees.length]
  read := by
    intro index member
    rw [stock_insert plain, List.append_nil]
    rcases List.mem_append.mp member with earlier | now
    · exact agrees.read index earlier
    · exact absurd (List.mem_singleton.mp now).symm (quiet index)
  holds := by
    intro index buffer found
    exact (agrees.holds index buffer found).later (agrees.old found) (quiet index)

theorem Matches.drain (agrees : Matches steps shelf) (found : shelf[index]? = some buffer) :
    Matches (steps ++ [.readAll index]) (shelf.set index buffer.drained) where
  length := by rw [List.length_set, stock_insert rfl, List.append_nil, agrees.length]
  read := by
    intro other member
    rw [stock_insert rfl, List.append_nil]
    rcases List.mem_append.mp member with earlier | now
    · exact agrees.read other earlier
    · cases List.mem_singleton.mp now
      exact agrees.old found
  holds := by
    intro other after set
    by_cases same : index = other
    · cases same
      rw [List.getElem?_set_self (List.getElem?_eq_some_iff.mp found).1] at set
      cases set
      exact (agrees.holds index buffer found).drain (agrees.old found)
    · rw [List.getElem?_set_ne same] at set
      have different : Step.readAll index ≠ .readAll other := fun equal => same (by cases equal; rfl)
      exact (agrees.holds other after set).later (agrees.old set) different

theorem Matches.grow (agrees : Matches steps shelf) (adds : step.adds = true)
    (held : Holds (steps ++ [step]) (stock steps) buffer) :
    Matches (steps ++ [step]) (shelf ++ [buffer]) where
  length := by
    rw [List.length_append, List.length_singleton, agrees.length, stock_append, stock_cons, adds]
    rfl
  read := by
    intro index member
    rw [stock_append]
    rcases List.mem_append.mp member with earlier | now
    · exact Nat.lt_of_lt_of_le (agrees.read index earlier) (Nat.le_add_right _ _)
    · rw [← List.mem_singleton.mp now] at adds
      cases adds
  holds := by
    intro index other found
    rcases Nat.lt_or_ge index shelf.length with inside | outside
    · rw [List.getElem?_append_left inside] at found
      have different : step ≠ .readAll index := by
        rintro rfl
        cases adds
      exact (agrees.holds index other found).later (agrees.old found) different
    · rw [List.getElem?_append_right outside, List.getElem?_singleton] at found
      split at found
      · next last =>
          cases found
          have same : index = stock steps := by
            rw [← agrees.length]
            omega
          rw [same]
          exact held
      · cases found

/-- A step keeps the shelf as the history says. -/
theorem Matches.forward (agrees : Matches steps shelf)
    (performed : shelf.perform step = some (answer, next)) : Matches (steps ++ [step]) next := by
  cases step with
  | isTerminal index =>
      rcases Option.map_eq_some_iff.mp performed with ⟨buffer, found, same⟩
      cases same
      exact agrees.keep rfl (fun _ => Step.noConfusion)
  | readAll index =>
      rcases Option.map_eq_some_iff.mp performed with ⟨buffer, found, same⟩
      cases same
      exact agrees.drain found
  | copy index =>
      rcases Option.map_eq_some_iff.mp performed with ⟨buffer, found, same⟩
      cases same
      exact agrees.grow rfl ((agrees.holds index buffer found).copy (agrees.unread rfl))
  | add buffer =>
      cases performed
      exact agrees.grow rfl (holds_add (agrees.unread rfl))
  | resolve index =>
      rcases Option.map_eq_some_iff.mp performed with ⟨buffer, found, same⟩
      cases same
      exact agrees.keep rfl (fun _ => Step.noConfusion)

/-- A step on a buffer that is there has an answer. -/
theorem Matches.answered (agrees : Matches steps shelf)
    (there : forall index, step.subject? = some index -> index < stock steps) :
    Exists fun answer => Exists fun next => shelf.perform step = some (answer, next) := by
  have found {index : Nat} (subject : step.subject? = some index) :
      Exists fun buffer => shelf[index]? = some buffer := by
    have inside := there index subject
    rw [← agrees.length] at inside
    exact ⟨_, List.getElem?_eq_getElem inside⟩
  cases step with
  | add buffer => exact ⟨_, _, rfl⟩
  | isTerminal index | readAll index | copy index | resolve index =>
      rcases found rfl with ⟨buffer, here⟩
      simp only [perform, here, Option.map_some]
      exact ⟨_, _, rfl⟩

/-! ## Runs -/

/-- A run keeps the shelf as the history says. -/
theorem Performs.agrees (performs : Performs steps shelf) : Matches steps shelf := by
  induction performs with
  | start => exact ⟨rfl, fun _ member => absurd member List.not_mem_nil, fun _ _ found => by cases found⟩
  | step _ performed inductionHypothesis => exact inductionHypothesis.forward performed

theorem InStock.earlier {more : List Step} (known : InStock (steps ++ more)) : InStock steps := by
  intro before step after split
  exact known before step (after ++ more) (by rw [split, List.append_assoc, List.cons_append])

/-- A run goes on as long as its steps work on buffers that are there. -/
theorem Performs.extend {rest : List Step} (performs : Performs steps shelf)
    (known : InStock (steps ++ rest)) : Exists fun reached => Performs (steps ++ rest) reached := by
  induction rest generalizing steps shelf with
  | nil =>
      rw [List.append_nil]
      exact ⟨shelf, performs⟩
  | cons step rest inductionHypothesis =>
      rcases performs.agrees.answered (known steps step rest rfl) with ⟨answer, next, performed⟩
      rw [List.append_cons] at known ⊢
      exact inductionHypothesis (.step performs performed) known

theorem InStock.performs (known : InStock steps) : Exists fun shelf => Performs steps shelf :=
  Performs.start.extend known

theorem answers_cons (performed : shelf.perform step = some (answer, next)) (rest : List Step) :
    shelf.answers (step :: rest) = answer :: next.answers rest := by
  rw [answers, performed]

theorem Performs.answers_append (performs : Performs steps shelf) (rest : List Step) :
    answers [] (steps ++ rest) = answers [] steps ++ shelf.answers rest := by
  induction performs generalizing rest with
  | start => rfl
  | step _ performed inductionHypothesis =>
      rw [List.append_assoc, inductionHypothesis, inductionHypothesis, List.singleton_append,
        answers_cons performed, answers_cons performed, List.append_assoc]
      rfl

theorem Performs.answers_length (performs : Performs steps shelf) :
    (answers [] steps).length = steps.length := by
  induction performs with
  | start => rfl
  | step performs performed inductionHypothesis =>
      rw [performs.answers_append, answers_cons performed, List.length_append, List.length_append,
        inductionHypothesis]
      rfl

/-- Every step of a run gets exactly the answer that it is due. -/
theorem InStock.answer_iff {before after : List Step} (known : InStock (before ++ step :: after))
    (answer : Answer) :
    (answers [] (before ++ step :: after))[before.length]? = some answer ↔
      Due before step answer := by
  rcases known.earlier.performs with ⟨shelf, performs⟩
  rcases performs.agrees.answered (known before step after rfl) with ⟨given, next, performed⟩
  have due := performs.agrees.due performed
  rw [performs.answers_append, answers_cons performed, ← performs.answers_length,
    List.getElem?_append_right (Nat.le_refl _), Nat.sub_self, List.getElem?_cons_zero]
  constructor
  · intro same
    cases same
    exact due
  · intro also
    rw [due.unique also]

theorem InStock.last_iff {query : Step} (known : InStock (steps ++ [query])) (answer : Answer) :
    (answers [] (steps ++ [query])).getLast? = some answer ↔ Due steps query answer := by
  rcases known.performs with ⟨shelf, performs⟩
  rw [List.getLast?_eq_getElem?, performs.answers_length, List.length_append,
    List.length_singleton, Nat.add_sub_cancel]
  exact known.answer_iff answer

end

/-! ## Steps that make no difference to a buffer -/

/-- What can be asked about the buffer of a number. -/
inductive Asks (index : Nat) : Step -> Prop
  | isTerminal : Asks index (.isTerminal index)
  | readAll : Asks index (.readAll index)
  | resolve : Asks index (.resolve index)

/-- A step that is followed by others makes no difference to a buffer: it
changes nothing, or it reads a buffer that this one does not come from by
copies that were taken afterwards, or it adds a buffer and this one was there
before. -/
inductive Spares (before since : List Step) (index : Nat) : Step -> Prop
  | isTerminal (other : Nat) : Spares before since index (.isTerminal other)
  | resolve (other : Nat) : Spares before since index (.resolve other)
  | readAll {other : Nat} :
      ¬ Stems before other since index -> Spares before since index (.readAll other)
  | copy (other : Nat) : index < stock before -> Spares before since index (.copy other)
  | add (buffer : Buffer) : index < stock before -> Spares before since index (.add buffer)

section

variable {before since : List Step} {step query : Step} {index : Nat}

theorem Spares.origin_iff (spares : Spares before since index step) (root : Buffer) :
    Origin (before ++ step :: since) index root ↔ Origin (before ++ since) index root := by
  cases spares with
  | isTerminal | resolve | readAll => exact origin_insert_iff rfl index root
  | copy _ old | add _ old => rw [origin_append_iff old, origin_append_iff old]

theorem Spares.delivered_iff (spares : Spares before since index step) :
    Delivered (before ++ step :: since) index ↔ Delivered (before ++ since) index := by
  cases spares with
  | isTerminal other | resolve other =>
      exact delivered_insert_iff rfl (fun _ impossible => by cases impossible)
  | readAll apart =>
      refine delivered_insert_iff rfl ?_
      intro source same
      cases same
      exact apart
  | copy _ old | add _ old =>
      rw [delivered_append_iff old, delivered_append_iff old, List.mem_cons]
      simp only [reduceCtorEq, false_or]

/-- The answer to a question follows from the origin of the buffer and from
whether its bytes have been given away. -/
theorem Due.transfer {first second : List Step} {answer : Answer} (asks : Asks index query)
    (origins : forall root, Origin first index root ↔ Origin second index root)
    (same : Delivered first index ↔ Delivered second index) (due : Due first query answer) :
    Due second query answer := by
  have lefts {bytes : Bytes} (left : Left first index bytes) : Left second index bytes := by
    cases left with
    | whole origin kept =>
        exact .whole ((origins _).mp origin) (fun delivered => kept (same.mpr delivered))
    | nothing delivered => exact .nothing (same.mp delivered)
  cases asks with
  | isTerminal =>
      cases due with
      | isTerminal origin => exact .isTerminal ((origins _).mp origin)
  | readAll =>
      cases due with
      | readAll left => exact .readAll (lefts left)
  | resolve =>
      cases due with
      | resolveTerminal origin terminal => exact .resolveTerminal ((origins _).mp origin) terminal
      | resolve origin plain left greets =>
          exact .resolve ((origins _).mp origin) plain (lefts left) greets

/-- A step that makes no difference to a buffer can be left out without any
change in what is answered about the buffer later. -/
theorem Spares.last_eq (spares : Spares before since index step) (asks : Asks index query)
    (known : InStock (before ++ step :: (since ++ [query])))
    (also : InStock (before ++ (since ++ [query]))) :
    (answers [] (before ++ step :: (since ++ [query]))).getLast? =
      (answers [] (before ++ (since ++ [query]))).getLast? := by
  rw [← List.cons_append, ← List.append_assoc] at known ⊢
  rw [← List.append_assoc] at also ⊢
  apply Option.ext
  intro answer
  rw [known.last_iff, also.last_iff]
  constructor
  · exact Due.transfer asks spares.origin_iff spares.delivered_iff
  · exact Due.transfer asks (fun root => (spares.origin_iff root).symm) spares.delivered_iff.symm

end

/-- Buffers deliver once, and copies are independent.  In every run over a
growing shelf each step is answered, and the answer is the one that the steps
before it say: a read gives the bytes of the buffer that was added first,
unless the bytes have been given away by then, whether a buffer is a terminal
is settled by that first buffer, and a name comes from the bytes that are left.
A step can be left out without any change in what is answered about a buffer
later, unless it reads this buffer or one that this buffer is copied from
afterwards. -/
theorem answers_by_history {steps : List Step} (known : InStock steps) :
    (answers [] steps).length = steps.length ∧
    (forall before step after, steps = before ++ step :: after -> forall answer,
      (answers [] steps)[before.length]? = some answer ↔ Due before step answer) ∧
    (forall before step since query index, steps = before ++ step :: (since ++ [query]) ->
      InStock (before ++ (since ++ [query])) -> Asks index query ->
      Spares before since index step ->
      (answers [] steps).getLast? = (answers [] (before ++ (since ++ [query]))).getLast?) := by
  rcases known.performs with ⟨shelf, performs⟩
  refine ⟨performs.answers_length, ?_, ?_⟩
  · rintro before step after rfl answer
    exact known.answer_iff answer
  · rintro before step since query index rfl also asks spares
    exact spares.last_eq asks known also

theorem InStock.snoc {steps : List Step} {step : Step} (known : InStock steps)
    (there : forall index, step.subject? = some index -> index < stock steps) :
    InStock (steps ++ [step]) := by
  intro before other after split
  rcases split_append split with ⟨between, rfl, rfl⟩ | ⟨between, rfl, rest⟩
  · exact known before other between rfl
  · cases between with
    | nil =>
        cases rest
        rw [List.append_nil]
        exact there
    | cons first between =>
        rw [List.cons_append, List.cons.injEq] at rest
        exact absurd rest.2.symm (List.append_ne_nil_of_right_ne_nil _ (List.cons_ne_nil _ _))

/-- A copy that was taken before its source was read has the bytes, and one that
was taken afterwards has none. -/
theorem answers_two_copies :
    Due [.add (.ofBytes [0x61]), .copy 0, .readAll 0, .copy 0] (.readAll 1) (.bytes [0x61]) ∧
    Due [.add (.ofBytes [0x61]), .copy 0, .readAll 0, .copy 0, .readAll 1] (.readAll 2)
      (.bytes []) := by
  have none : InStock [] := fun before _ _ split => by cases before <;> cases split
  have known : InStock [.add (.ofBytes [0x61]), .copy 0, .readAll 0, .copy 0, .readAll 1,
      .readAll 2] := by
    refine InStock.snoc (InStock.snoc (InStock.snoc (InStock.snoc (InStock.snoc (InStock.snoc none
      ?_) ?_) ?_) ?_) ?_) ?_
    all_goals
      intro index subject
      cases subject
      try decide
  have history := (answers_by_history known).2.1
  exact ⟨(history _ _ _ rfl _).mp rfl, (history [_, _, _, _, _] _ [] rfl _).mp rfl⟩

end Shelf
end Stream
end Salutation
