namespace Salutation

/-!
# Inquiries

An inquiry is a computation that knows nothing about its surroundings.  It asks
them one question after another, and how it goes on depends on the answers.
So what it looks at is data: when the answers are known in advance, the
questions can be told one by one, and the same inquiry can be put to the
outside, where an answer has to be fetched first.
-/

/-- A computation that asks questions.  The type of an answer depends on the
question. -/
inductive Inquiry (Question : Type) (Answer : Question -> Type) (Result : Type) where
  | done (result : Result)
  | ask (question : Question) (next : Answer question -> Inquiry Question Answer Result)

namespace Inquiry

variable {Question : Type} {Answer : Question -> Type} {First Second Result : Type}

/-- Go on from the result of an inquiry with another inquiry. -/
def andThen (following : First -> Inquiry Question Answer Second) :
    Inquiry Question Answer First -> Inquiry Question Answer Second
  | .done result => following result
  | .ask question next => .ask question (fun answer => (next answer).andThen following)

instance : Monad (Inquiry Question Answer) where
  pure := .done
  bind inquiry following := inquiry.andThen following

section

variable {Wider : Type} {WiderAnswer : Wider -> Type}

/-- Put the questions of an inquiry to somebody who can be asked more than
these. -/
def via (place : Question -> Wider) :
    Inquiry Question (fun question => WiderAnswer (place question)) Result ->
      Inquiry Wider WiderAnswer Result
  | .done result => .done result
  | .ask question next => .ask (place question) (fun answer => (next answer).via place)

end

theorem ask_bind (question : Question) (next : Answer question -> Inquiry Question Answer First)
    (following : First -> Inquiry Question Answer Second) :
    ask question next >>= following = ask question (fun answer => next answer >>= following) := rfl

/-! ## Results -/

section

variable {Place : Type -> Type} [Monad Place]

/-- The result of an inquiry whose questions are answered somewhere. -/
def run (answer : (question : Question) -> Place (Answer question)) :
    Inquiry Question Answer Result -> Place Result
  | .done result => pure result
  | .ask question next => do (next (← answer question)).run answer

/-- An inquiry that goes on from another one comes to what the second one comes
to. -/
theorem run_bind [LawfulMonad Place]
    (answer : (question : Question) -> Place (Answer question))
    (inquiry : Inquiry Question Answer First)
    (following : First -> Inquiry Question Answer Second) :
    (inquiry >>= following).run answer =
      inquiry.run answer >>= fun result => (following result).run answer := by
  induction inquiry with
  | done result => exact (pure_bind result fun found => (following found).run answer).symm
  | ask question next inductionHypothesis =>
      rw [ask_bind, run, run, bind_assoc]
      congr 1
      funext found
      exact inductionHypothesis found

variable {Wider : Type} {WiderAnswer : Wider -> Type}

/-- It makes no difference who is asked, as long as the answers are the same. -/
theorem run_via (wider : (question : Wider) -> Place (WiderAnswer question))
    (place : Question -> Wider)
    (inquiry : Inquiry Question (fun question => WiderAnswer (place question)) Result) :
    (inquiry.via place).run wider = inquiry.run fun question => wider (place question) := by
  induction inquiry with
  | done result => rfl
  | ask question next inductionHypothesis =>
      rw [via, run, run]
      congr 1
      funext found
      exact inductionHypothesis found

end

/-! ## Questions -/

section

variable {Fault : Type}

/-- The questions of an inquiry, in order.  A question that has no answer is
the last one. -/
def questions (answer : (question : Question) -> Except Fault (Answer question)) :
    Inquiry Question Answer Result -> List Question
  | .done _ => []
  | .ask question next =>
      question ::
        match answer question with
        | .error _ => []
        | .ok found => (next found).questions answer

variable (answer : (question : Question) -> Except Fault (Answer question))

/-- An inquiry that goes on from another one asks what the first one asks, and
then, if that has a result, what the second one asks. -/
theorem questions_bind (inquiry : Inquiry Question Answer First)
    (following : First -> Inquiry Question Answer Second) :
    (inquiry >>= following).questions answer =
      inquiry.questions answer ++
        match inquiry.run answer with
        | .error _ => []
        | .ok result => (following result).questions answer := by
  induction inquiry with
  | done result => rfl
  | ask question next inductionHypothesis =>
      rw [ask_bind, questions, questions, run]
      cases answer question with
      | error fault => rfl
      | ok found => exact congrArg (question :: ·) (inductionHypothesis found)

/-- An inquiry with nothing to ask after another one asks what that one asks. -/
theorem questions_map (inquiry : Inquiry Question Answer First) (finish : First -> Second) :
    (inquiry >>= fun result => pure (finish result)).questions answer =
      inquiry.questions answer := by
  rw [questions_bind]
  cases inquiry.run answer with
  | error fault => exact List.append_nil _
  | ok result => exact List.append_nil _

theorem questions_via {Wider : Type} {WiderAnswer : Wider -> Type}
    (wider : (question : Wider) -> Except Fault (WiderAnswer question))
    (place : Question -> Wider)
    (inquiry : Inquiry Question (fun question => WiderAnswer (place question)) Result) :
    (inquiry.via place).questions wider =
      (inquiry.questions fun question => wider (place question)).map place := by
  induction inquiry with
  | done result => rfl
  | ask question next inductionHypothesis =>
      rw [via, questions, questions]
      cases wider (place question) with
      | error fault => rfl
      | ok found => exact congrArg (place question :: ·) (inductionHypothesis found)

end

end Inquiry
end Salutation
