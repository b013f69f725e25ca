import Mathlib.Logic.Relation
import Salutation.Proofs.Stream.Arrival

namespace Salutation
namespace Stream

/-!
# The pump and the collector side by side

The pump and the collector run at the same time and share nothing but a queue
of messages.  The queue has no bound, keeps its order, and loses nothing.  The
collector finds it closed when it is empty and the pump is done, and what the
pump passes on after the collector has returned is refused.

Time plays no part here.  Either process may take its next step at any moment,
and the deadline may come at any moment as long as the collector has not
returned.  A timed reading is then one of many schedules, and what holds of
every schedule does not rest on how long anything takes.
-/

/-! ## Readers -/

/-- What the successive calls of a reader deliver, numbered from zero.  Nothing
is assumed of a reader: it need not come to an end, and it may deliver more
after an end or an error if it is called again. -/
abbrev Calls := Nat -> Delivery

namespace Delivery

/-- The bytes that come with a delivery. -/
def content : Delivery -> Bytes
  | .bytes found => found
  | .failed _ => []
  | .never => []

/-- A call that has to be made again. -/
def Interrupted (delivery : Delivery) : Prop :=
  Exists fun error => delivery = .failed error ∧ error.isInterruption = true

/-- A stream goes on after bytes and after an interruption. -/
def GoesOn (delivery : Delivery) : Prop :=
  delivery.Interrupted ∨ Exists fun bytes => delivery = .bytes bytes ∧ bytes ≠ []

end Delivery

/-- The first calls bring these bytes, and the stream goes on after all of
them. -/
inductive Calls.Brings (calls : Calls) : Nat -> Bytes -> Prop
  | start : Calls.Brings calls 0 []
  | next {count : Nat} {bytes : Bytes} :
      Calls.Brings calls count bytes -> (calls count).GoesOn ->
      Calls.Brings calls (count + 1) (bytes ++ (calls count).content)

/-- Some bytes that the stream begins with. -/
def Calls.Begins (calls : Calls) (bytes : Bytes) : Prop :=
  Exists fun count => Exists fun whole => calls.Brings count whole ∧ List.IsPrefix bytes whole

/-! ## One turn of the pump -/

/-- What the pump does about a delivery. -/
inductive Response where
  | again
  | pass (message : Message)
  | stop
  | wait
  deriving DecidableEq, Repr

def respond : Delivery -> Response
  | .bytes [] => .stop
  | .bytes (byte :: bytes) => .pass (.chunk (byte :: bytes))
  | .failed error => if error.isInterruption then .again else .pass (.failure error)
  | .never => .wait

/-- A turn is a call and the response to what it delivers. -/
theorem turn_eq (device : Device) :
    turn device =
      match respond (device.read chunkSize).1 with
      | .again => .retry (device.read chunkSize).2
      | .pass (.chunk bytes) => .chunk bytes (device.read chunkSize).2
      | .pass (.failure error) => .failure error (device.read chunkSize).2.now
      | .stop => .finished (device.read chunkSize).2.now
      | .wait => .waiting := by
  rw [turn]
  cases device.read chunkSize with
  | mk delivery later =>
      cases delivery with
      | bytes bytes => cases bytes <;> rfl
      | failed error => cases interrupted : error.isInterruption <;> simp [respond, interrupted]
      | never => rfl

theorem interrupted_of_respond {delivery : Delivery} (response : respond delivery = .again) :
    delivery.Interrupted := by
  cases delivery with
  | bytes bytes => cases bytes <;> cases response
  | never => cases response
  | failed error =>
      cases interrupted : error.isInterruption with
      | true => exact ⟨error, rfl, interrupted⟩
      | false => simp [respond, interrupted] at response

theorem goesOn_of_respond {delivery : Delivery} {bytes : Bytes}
    (response : respond delivery = .pass (.chunk bytes)) :
    delivery.GoesOn ∧ delivery.content = bytes := by
  cases delivery with
  | never => cases response
  | failed error =>
      cases interrupted : error.isInterruption <;> simp [respond, interrupted] at response
  | bytes found =>
      cases found with
      | nil => cases response
      | cons byte found =>
          cases response
          exact ⟨.inr ⟨_, rfl, List.cons_ne_nil _ _⟩, rfl⟩

theorem failed_of_respond {delivery : Delivery} {error : DeviceError}
    (response : respond delivery = .pass (.failure error)) :
    delivery = .failed error ∧ error.isInterruption = false := by
  cases delivery with
  | never => cases response
  | bytes bytes => cases bytes <;> cases response
  | failed found =>
      cases interrupted : found.isInterruption with
      | true => simp [respond, interrupted] at response
      | false =>
          simp only [respond, interrupted, Bool.false_eq_true, if_false, Response.pass.injEq,
            Message.failure.injEq] at response
          rw [← response]
          exact ⟨rfl, interrupted⟩

theorem ended_of_respond {delivery : Delivery} (response : respond delivery = .stop) :
    delivery = .bytes [] := by
  cases delivery with
  | never => cases response
  | failed error =>
      cases interrupted : error.isInterruption <;> simp [respond, interrupted] at response
  | bytes bytes =>
      cases bytes with
      | nil => rfl
      | cons byte bytes => cases response

/-! ## The exchange -/

/-- What the pump is about to do: call the reader, pass on what it has in hand,
or nothing any more. -/
inductive Pump where
  | calling
  | passing (message : Message)
  | done
  deriving DecidableEq, Repr

/-- After an error there is nothing more to pass on. -/
def Pump.after : Message -> Pump
  | .chunk _ => .calling
  | .failure _ => .done

/-- Why the collector has returned. -/
inductive Exit where
  | closed
  | failed
  | expired
  deriving DecidableEq, Repr

/-- The collector with the bytes it has, and with what it has returned once it
has done so. -/
inductive Collector where
  | collecting (buffer : Bytes)
  | returned (buffer : Bytes) (exit : Exit) (reading : Reading)

/-- The state of both processes: how many calls have come back, what the pump
is about to do, everything that the queue has taken so far, what is still in
it, and the collector. -/
structure Exchange where
  made : Nat
  pump : Pump
  sent : List Message
  queue : List Message
  collector : Collector

namespace Exchange

def start : Exchange := ⟨0, .calling, [], [], .collecting []⟩

/-- One step of either process. -/
inductive Step (calls : Calls) (timeout : Duration) : Exchange -> Exchange -> Prop
  | again {made : Nat} {sent queue : List Message} {collector : Collector} :
      respond (calls made) = .again ->
      Step calls timeout ⟨made, .calling, sent, queue, collector⟩
        ⟨made + 1, .calling, sent, queue, collector⟩
  | deliver {made : Nat} {sent queue : List Message} {collector : Collector} {message : Message} :
      respond (calls made) = .pass message ->
      Step calls timeout ⟨made, .calling, sent, queue, collector⟩
        ⟨made + 1, .passing message, sent, queue, collector⟩
  | stop {made : Nat} {sent queue : List Message} {collector : Collector} :
      respond (calls made) = .stop ->
      Step calls timeout ⟨made, .calling, sent, queue, collector⟩
        ⟨made + 1, .done, sent, queue, collector⟩
  | pass {made : Nat} {sent queue : List Message} {buffer : Bytes} {message : Message} :
      Step calls timeout ⟨made, .passing message, sent, queue, .collecting buffer⟩
        ⟨made, .after message, sent ++ [message], queue ++ [message], .collecting buffer⟩
  | refuse {made : Nat} {sent queue : List Message} {buffer : Bytes} {message : Message}
      {exit : Exit} {reading : Reading} :
      Step calls timeout ⟨made, .passing message, sent, queue, .returned buffer exit reading⟩
        ⟨made, .done, sent, queue, .returned buffer exit reading⟩
  | receive {made : Nat} {pump : Pump} {sent queue : List Message} {buffer longer : Bytes}
      {message : Message} :
      react buffer message = .goOn longer ->
      Step calls timeout ⟨made, pump, sent, message :: queue, .collecting buffer⟩
        ⟨made, pump, sent, queue, .collecting longer⟩
  | fail {made : Nat} {pump : Pump} {sent queue : List Message} {buffer : Bytes}
      {message : Message} {reading : Reading} :
      react buffer message = .finish reading ->
      Step calls timeout ⟨made, pump, sent, message :: queue, .collecting buffer⟩
        ⟨made, pump, sent, queue, .returned buffer .failed reading⟩
  | close {made : Nat} {sent : List Message} {buffer : Bytes} :
      Step calls timeout ⟨made, .done, sent, [], .collecting buffer⟩
        ⟨made, .done, sent, [], .returned buffer .closed (.quiet (.ok buffer))⟩
  | expire {made : Nat} {pump : Pump} {sent queue : List Message} {buffer : Bytes} :
      Step calls timeout ⟨made, pump, sent, queue, .collecting buffer⟩
        ⟨made, pump, sent, queue, .returned buffer .expired (expire timeout buffer)⟩

/-- Any number of steps in any order. -/
abbrev Reaches (calls : Calls) (timeout : Duration) : Exchange -> Exchange -> Prop :=
  Relation.ReflTransGen (Step calls timeout)

end Exchange

/-! ## What is on the way -/

/-- The bytes of a message. -/
def Message.content : Message -> Bytes
  | .chunk bytes => bytes
  | .failure _ => []

/-- The bytes of all messages. -/
def payload (messages : List Message) : Bytes := messages.flatMap Message.content

/-- What the pump has in hand and has not passed on yet. -/
def Pump.inHand : Pump -> Bytes
  | .calling => []
  | .passing message => message.content
  | .done => []

/-- Nothing but chunks. -/
def Chunks (messages : List Message) : Prop :=
  forall message, message ∈ messages -> Exists fun bytes => message = .chunk bytes

/-- An error is the last of the messages. -/
def FailsLast (messages : List Message) : Prop :=
  forall before error after, messages = before ++ .failure error :: after -> after = []

theorem payload_append (first second : List Message) :
    payload (first ++ second) = payload first ++ payload second :=
  List.flatMap_append

theorem payload_singleton (message : Message) : payload [message] = message.content :=
  List.flatMap_singleton ..

theorem chunks_nil : Chunks [] :=
  fun _ member => absurd member List.not_mem_nil

theorem Chunks.append_chunk {messages : List Message} (chunks : Chunks messages) (bytes : Bytes) :
    Chunks (messages ++ [.chunk bytes]) := by
  intro message member
  rcases List.mem_append.mp member with member | member
  · exact chunks message member
  · exact ⟨bytes, List.mem_singleton.mp member⟩

theorem Chunks.no_failure {before after : List Message} {error : DeviceError}
    (chunks : Chunks (before ++ .failure error :: after)) : False := by
  rcases chunks (.failure error) (List.mem_append_right _ List.mem_cons_self) with ⟨bytes, same⟩
  cases same

theorem Chunks.failsLast {messages : List Message} (chunks : Chunks messages) :
    FailsLast messages := by
  rintro before error after rfl
  exact chunks.no_failure.elim

/-- An error after chunks is the only one. -/
theorem Chunks.append_failure {messages : List Message} (chunks : Chunks messages)
    (error : DeviceError) {before after : List Message} {found : DeviceError}
    (split : messages ++ [.failure error] = before ++ .failure found :: after) :
    before = messages ∧ found = error ∧ after = [] := by
  induction messages generalizing before with
  | nil =>
      cases before with
      | nil =>
          cases split
          exact ⟨rfl, rfl, rfl⟩
      | cons first before =>
          rw [List.nil_append, List.cons_append, List.cons.injEq] at split
          cases before <;> cases split.2
  | cons message messages inductionHypothesis =>
      cases before with
      | nil =>
          rcases chunks message List.mem_cons_self with ⟨bytes, rfl⟩
          cases split
      | cons first before =>
          rw [List.cons_append, List.cons_append, List.cons.injEq] at split
          have others : Chunks messages := fun other member =>
            chunks other (List.mem_cons_of_mem _ member)
          rcases inductionHypothesis others split.2 with ⟨rfl, same, none⟩
          rw [split.1]
          exact ⟨rfl, same, none⟩

/-! ## The invariant -/

section

variable {calls : Calls} {timeout : Duration}

/-- Where the pump stands while the collector has not returned: the calls so far
have brought what was sent and what is in hand, and an error is passed on last. -/
inductive Stage (calls : Calls) : Nat -> Pump -> List Message -> Prop
  | calling {made : Nat} {sent : List Message} :
      Chunks sent -> calls.Brings made (payload sent) -> Stage calls made .calling sent
  | chunk {made : Nat} {sent : List Message} {bytes : Bytes} :
      Chunks sent -> calls.Brings made (payload sent ++ bytes) ->
      Stage calls made (.passing (.chunk bytes)) sent
  | failure {made : Nat} {sent : List Message} {error : DeviceError} :
      Chunks sent -> calls.Brings made (payload sent) -> calls made = .failed error ->
      error.isInterruption = false -> Stage calls (made + 1) (.passing (.failure error)) sent
  | ended {made : Nat} {sent : List Message} :
      Chunks sent -> calls.Brings made (payload sent) -> calls made = .bytes [] ->
      Stage calls (made + 1) .done sent
  | failed {made : Nat} {sent : List Message} {error : DeviceError} :
      Chunks sent -> calls.Brings made (payload sent) -> calls made = .failed error ->
      error.isInterruption = false -> Stage calls (made + 1) .done (sent ++ [.failure error])

/-- The collector has the bytes of those chunks that are no longer queued. -/
def Collected (sent queue : List Message) (buffer : Bytes) : Prop :=
  Exists fun received => sent = received ++ queue ∧ Chunks received ∧ payload received = buffer

/-- What the collector returns, for each of its reasons to do so. -/
inductive Verdict (calls : Calls) (timeout : Duration) : Bytes -> Exit -> Reading -> Prop
  | closed {made : Nat} {buffer : Bytes} :
      calls.Brings made buffer -> calls made = .bytes [] ->
      Verdict calls timeout buffer .closed (.quiet (.ok buffer))
  | failed {made : Nat} {buffer : Bytes} {error : DeviceError} :
      calls.Brings made buffer -> calls made = .failed error -> error.isInterruption = false ->
      Verdict calls timeout buffer .failed (failWith error buffer)
  | expired {buffer : Bytes} :
      calls.Begins buffer -> Verdict calls timeout buffer .expired (expire timeout buffer)

/-- The invariant of the exchange. -/
def Sound (calls : Calls) (timeout : Duration) (state : Exchange) : Prop :=
  match state.collector with
  | .collecting buffer =>
      Stage calls state.made state.pump state.sent ∧ Collected state.sent state.queue buffer
  | .returned buffer exit reading => Verdict calls timeout buffer exit reading

theorem Stage.brings {made : Nat} {pump : Pump} {sent : List Message}
    (stage : Stage calls made pump sent) :
    Exists fun count => calls.Brings count (payload sent ++ pump.inHand) ∧ made <= count + 1 := by
  cases stage with
  | calling _ brings =>
      rw [Pump.inHand, List.append_nil]
      exact ⟨_, brings, Nat.le_succ _⟩
  | chunk _ brings => exact ⟨_, brings, Nat.le_succ _⟩
  | failure _ brings _ _ =>
      rw [Pump.inHand, Message.content, List.append_nil]
      exact ⟨_, brings, Nat.le_refl _⟩
  | ended _ brings _ =>
      rw [Pump.inHand, List.append_nil]
      exact ⟨_, brings, Nat.le_refl _⟩
  | failed _ brings _ _ =>
      rw [Pump.inHand, payload_append, payload_singleton, Message.content, List.append_nil,
        List.append_nil]
      exact ⟨_, brings, Nat.le_refl _⟩

theorem Stage.failsLast {made : Nat} {pump : Pump} {sent : List Message}
    (stage : Stage calls made pump sent) : FailsLast sent := by
  cases stage with
  | calling chunks _ => exact chunks.failsLast
  | chunk chunks _ => exact chunks.failsLast
  | failure chunks _ _ _ => exact chunks.failsLast
  | ended chunks _ _ => exact chunks.failsLast
  | failed chunks _ _ _ =>
      intro before error after split
      exact (chunks.append_failure _ split).2.2

theorem Collected.payload_eq {sent queue : List Message} {buffer : Bytes}
    (collected : Collected sent queue buffer) : buffer ++ payload queue = payload sent := by
  rcases collected with ⟨received, rfl, _, rfl⟩
  rw [payload_append]

theorem Stage.queue_failsLast {made : Nat} {pump : Pump} {sent queue : List Message}
    {buffer : Bytes} (stage : Stage calls made pump sent)
    (collected : Collected sent queue buffer) : FailsLast queue := by
  rcases collected with ⟨received, rfl, _, _⟩
  rintro before error after rfl
  exact stage.failsLast (received ++ before) error after (List.append_assoc _ _ _).symm

/-- What has been collected is what the stream begins with. -/
theorem Stage.begins {made : Nat} {pump : Pump} {sent queue : List Message} {buffer : Bytes}
    (stage : Stage calls made pump sent) (collected : Collected sent queue buffer) :
    calls.Begins buffer := by
  rcases stage.brings with ⟨count, brings, _⟩
  rw [← collected.payload_eq, List.append_assoc] at brings
  exact ⟨count, _, brings, List.prefix_append _ _⟩

/-- An error that the collector meets is where the stream ends, and everything
before it has been collected. -/
theorem Stage.met_failure {made : Nat} {pump : Pump} {sent queue : List Message} {buffer : Bytes}
    {error : DeviceError} (stage : Stage calls made pump sent)
    (collected : Collected sent (.failure error :: queue) buffer) :
    Exists fun count => calls.Brings count buffer ∧ calls count = .failed error ∧
      error.isInterruption = false := by
  rcases collected with ⟨received, split, _, rfl⟩
  cases stage with
  | calling chunks _ => exact (split ▸ chunks).no_failure.elim
  | chunk chunks _ => exact (split ▸ chunks).no_failure.elim
  | failure chunks _ _ _ => exact (split ▸ chunks).no_failure.elim
  | ended chunks _ _ => exact (split ▸ chunks).no_failure.elim
  | failed chunks brings failed final =>
      rcases chunks.append_failure _ split with ⟨rfl, rfl, _⟩
      exact ⟨_, brings, failed, final⟩

/-- When the pump is done and nothing is queued, the stream has ended and all
of it has been collected. -/
theorem Stage.met_end {made : Nat} {sent : List Message} {buffer : Bytes}
    (stage : Stage calls made .done sent) (collected : Collected sent [] buffer) :
    Exists fun count => calls.Brings count buffer ∧ calls count = .bytes [] := by
  rcases collected with ⟨received, split, chunks, rfl⟩
  rw [List.append_nil] at split
  cases stage with
  | ended _ brings ended => exact ⟨_, split ▸ brings, ended⟩
  | failed _ _ _ _ => exact (split ▸ chunks).no_failure.elim

/-- A chunk that is passed on is queued behind all others. -/
theorem Collected.append {sent queue : List Message} {buffer : Bytes}
    (collected : Collected sent queue buffer) (message : Message) :
    Collected (sent ++ [message]) (queue ++ [message]) buffer := by
  rcases collected with ⟨received, rfl, chunks, same⟩
  exact ⟨received, List.append_assoc _ _ _, chunks, same⟩

/-- A chunk that is received is added to what has been collected. -/
theorem Collected.receive {sent queue : List Message} {buffer bytes : Bytes}
    (collected : Collected sent (.chunk bytes :: queue) buffer) :
    Collected sent queue (buffer ++ bytes) := by
  rcases collected with ⟨received, rfl, chunks, rfl⟩
  refine ⟨received ++ [.chunk bytes], ?_, chunks.append_chunk bytes, ?_⟩
  · rw [List.append_assoc, List.singleton_append]
  · rw [payload_append, payload_singleton, Message.content]

/-- A call that comes back moves the pump on. -/
theorem Stage.called {made : Nat} {sent : List Message} {message : Message}
    (stage : Stage calls made .calling sent) (response : respond (calls made) = .pass message) :
    Stage calls (made + 1) (.passing message) sent := by
  cases stage with
  | calling chunks brings =>
      cases message with
      | chunk bytes =>
          rcases goesOn_of_respond response with ⟨goesOn, rfl⟩
          exact .chunk chunks (.next brings goesOn)
      | failure error =>
          rcases failed_of_respond response with ⟨failed, final⟩
          exact .failure chunks brings failed final

/-- What the pump passes on is added to what was sent. -/
theorem Stage.passed {made : Nat} {sent : List Message} {message : Message}
    (stage : Stage calls made (.passing message) sent) :
    Stage calls made (.after message) (sent ++ [message]) := by
  cases stage with
  | chunk chunks brings =>
      apply Stage.calling (chunks.append_chunk _)
      rwa [payload_append, payload_singleton]
  | failure chunks brings failed final => exact .failed chunks brings failed final

/-! ## What the collector returns -/

theorem begins_of_brings {count : Nat} {bytes : Bytes} (brings : calls.Brings count bytes) :
    calls.Begins bytes :=
  ⟨count, bytes, brings, List.prefix_rfl⟩

section

variable {buffer : Bytes} {exit : Exit} {reading : Reading}

/-- Bytes that are returned are those collected, and the stream begins with them. -/
theorem Verdict.begins {bytes : Bytes} (verdict : Verdict calls timeout buffer exit reading)
    (read : reading.result = .ok bytes) : bytes = buffer ∧ calls.Begins bytes := by
  cases verdict with
  | closed brings _ =>
      cases read
      exact ⟨rfl, begins_of_brings brings⟩
  | failed brings _ _ =>
      rw [failWith_eq] at read
      split at read
      · cases read
      · cases read
        exact ⟨rfl, begins_of_brings brings⟩
  | expired begins =>
      rw [expire_eq] at read
      split at read
      · cases read
      · cases read
        exact ⟨rfl, begins⟩

/-- At the end of the stream all of it is returned. -/
theorem Verdict.whole (verdict : Verdict calls timeout buffer .closed reading) :
    reading = .quiet (.ok buffer) ∧
      Exists fun count => calls.Brings count buffer ∧ calls count = .bytes [] := by
  cases verdict with
  | closed brings ended => exact ⟨rfl, _, brings, ended⟩

/-- An error is returned when it ends the stream before any byte of it. -/
theorem Verdict.device {error : DeviceError} (verdict : Verdict calls timeout buffer exit reading)
    (failed : reading.result = .error (.device error)) :
    error.isInterruption = false ∧
      Exists fun count => calls.Brings count [] ∧ calls count = .failed error := by
  cases verdict with
  | closed _ _ => cases failed
  | failed brings found final =>
      rw [failWith_eq] at failed
      split at failed
      · next none =>
          cases failed
          exact ⟨final, _, none ▸ brings, found⟩
      · cases failed
  | expired _ =>
      rw [expire_eq] at failed
      split at failed <;> cases failed

/-- The deadline is reported only when nothing was collected before it. -/
theorem Verdict.timedOut {limit : Duration} (verdict : Verdict calls timeout buffer exit reading)
    (late : reading.result = .error (.timedOut limit)) :
    limit = timeout ∧ exit = .expired ∧ buffer = [] := by
  cases verdict with
  | closed _ _ => cases late
  | failed _ _ _ =>
      rw [failWith_eq] at late
      split at late <;> cases late
  | expired _ =>
      rw [expire_eq] at late
      split at late
      · next none =>
          cases late
          exact ⟨rfl, rfl, none⟩
      · cases late

end

namespace Exchange

theorem sound_start : Sound calls timeout start :=
  ⟨.calling chunks_nil .start, [], rfl, chunks_nil, rfl⟩

/-- Every step of either process keeps the invariant. -/
theorem Step.sound {state next : Exchange} (step : Step calls timeout state next)
    (sound : Sound calls timeout state) : Sound calls timeout next := by
  cases step with
  | @again made sent queue collector response =>
      cases collector with
      | returned buffer exit reading => exact sound
      | collecting buffer =>
          rcases sound with ⟨stage, collected⟩
          cases stage with
          | calling chunks brings =>
              have interrupted := interrupted_of_respond response
              refine ⟨.calling chunks ?_, collected⟩
              have longer := Calls.Brings.next brings (.inl interrupted)
              rcases interrupted with ⟨error, same, _⟩
              rwa [same, Delivery.content, List.append_nil] at longer
  | @deliver made sent queue collector message response =>
      cases collector with
      | returned buffer exit reading => exact sound
      | collecting buffer => exact ⟨sound.1.called response, sound.2⟩
  | @stop made sent queue collector response =>
      cases collector with
      | returned buffer exit reading => exact sound
      | collecting buffer =>
          rcases sound with ⟨stage, collected⟩
          cases stage with
          | calling chunks brings =>
              exact ⟨.ended chunks brings (ended_of_respond response), collected⟩
  | pass => exact ⟨sound.1.passed, sound.2.append _⟩
  | refuse => exact sound
  | @receive _ _ _ _ _ _ message reaction =>
      cases message with
      | failure error => cases reaction
      | chunk bytes =>
          cases reaction
          exact ⟨sound.1, sound.2.receive⟩
  | @fail _ _ _ _ _ message _ reaction =>
      cases message with
      | chunk bytes => cases reaction
      | failure error =>
          cases reaction
          rcases sound.1.met_failure sound.2 with ⟨count, brings, failed, final⟩
          exact .failed brings failed final
  | close =>
      rcases sound.1.met_end sound.2 with ⟨count, brings, ended⟩
      exact .closed brings ended
  | expire => exact .expired (sound.1.begins sound.2)

/-- The invariant holds of every state of every schedule. -/
theorem Reaches.sound {state : Exchange} (reached : Reaches calls timeout start state) :
    Sound calls timeout state := by
  induction reached with
  | refl => exact sound_start
  | tail _ step inductionHypothesis => exact step.sound inductionHypothesis

/-! ## After the collector has returned -/

/-- What is left to happen: nothing but calls that are interrupted and one more
that is not, whose message is refused. -/
structure Winding (calls : Calls) (state later : Exchange) : Prop where
  collector : later.collector = state.collector
  sent : later.sent = state.sent
  queue : later.queue = state.queue
  calling : later.pump = .calling ->
    forall count, state.made <= count -> count < later.made -> (calls count).Interrupted
  almostAll : forall count, state.made <= count -> count + 1 < later.made ->
    (calls count).Interrupted

theorem Winding.refl (state : Exchange) : Winding calls state state where
  collector := rfl
  sent := rfl
  queue := rfl
  calling := by
    intro _ count least less
    omega
  almostAll := by
    intro count least less
    omega

theorem Step.winding {state later next : Exchange} {buffer : Bytes} {exit : Exit}
    {reading : Reading} (returned : state.collector = .returned buffer exit reading)
    (step : Step calls timeout later next) (winding : Winding calls state later) :
    Winding calls state next := by
  have collector := winding.collector
  rw [returned] at collector
  cases step with
  | @again made sent queue collector response =>
      have interrupted : forall count, state.made <= count -> count < made + 1 ->
          (calls count).Interrupted := by
        intro count least less
        rcases Nat.lt_succ_iff_lt_or_eq.mp less with less | rfl
        · exact winding.calling rfl count least less
        · exact interrupted_of_respond response
      exact ⟨winding.collector, winding.sent, winding.queue, fun _ => interrupted,
        fun count least less => interrupted count least (Nat.lt_of_succ_lt less)⟩
  | deliver response =>
      refine ⟨winding.collector, winding.sent, winding.queue, fun impossible => ?_, ?_⟩
      · cases impossible
      · intro count least less
        exact winding.calling rfl count least (Nat.lt_of_succ_lt_succ less)
  | stop response =>
      refine ⟨winding.collector, winding.sent, winding.queue, fun impossible => ?_, ?_⟩
      · cases impossible
      · intro count least less
        exact winding.calling rfl count least (Nat.lt_of_succ_lt_succ less)
  | refuse =>
      refine ⟨winding.collector, winding.sent, winding.queue, fun impossible => ?_,
        winding.almostAll⟩
      cases impossible
  | pass => cases collector
  | receive _ => cases collector
  | fail _ => cases collector
  | close => cases collector
  | expire => cases collector

theorem Reaches.winding {state later : Exchange} {buffer : Bytes} {exit : Exit}
    {reading : Reading} (returned : state.collector = .returned buffer exit reading)
    (reached : Reaches calls timeout state later) : Winding calls state later := by
  induction reached with
  | refl => exact .refl state
  | tail _ step inductionHypothesis => exact step.winding returned inductionHypothesis

/-! ## Every schedule -/

/-- Whatever the reader and whatever the schedule, nothing is lost, repeated or
put in another order on the way.  As long as the collector has not returned, it
has or will find in the queue exactly what was sent, and nothing but the last
message can be an error.  What it returns is what the stream begins with: all
of it when the queue is closed, an error only if it ends the stream before its
first byte, and the deadline only if nothing was collected.  Once it has
returned, it receives nothing more, and the pump makes at most one more call
that is not interrupted. -/
theorem exchange_lossless {state : Exchange} (reached : Reaches calls timeout start state) :
    (forall buffer, state.collector = .collecting buffer ->
      buffer ++ payload state.queue = payload state.sent ∧ FailsLast state.queue ∧
      Exists fun count => calls.Brings count (payload state.sent ++ state.pump.inHand) ∧
        state.made <= count + 1) ∧
    (forall buffer exit reading, state.collector = .returned buffer exit reading ->
      (forall bytes, reading.result = .ok bytes -> bytes = buffer ∧ calls.Begins bytes) ∧
      (exit = .closed -> reading = .quiet (.ok buffer) ∧
        Exists fun count => calls.Brings count buffer ∧ calls count = .bytes []) ∧
      (forall error, reading.result = .error (.device error) ->
        error.isInterruption = false ∧
          Exists fun count => calls.Brings count [] ∧ calls count = .failed error) ∧
      (forall limit, reading.result = .error (.timedOut limit) ->
        limit = timeout ∧ exit = .expired ∧ buffer = []) ∧
      forall later, Reaches calls timeout state later ->
        later.collector = state.collector ∧ later.sent = state.sent ∧ later.queue = state.queue ∧
          forall count, state.made <= count -> count + 1 < later.made ->
            (calls count).Interrupted) := by
  have sound := reached.sound
  rw [Sound] at sound
  constructor
  · intro buffer collecting
    rw [collecting] at sound
    rcases sound with ⟨stage, collected⟩
    exact ⟨collected.payload_eq, stage.queue_failsLast collected, stage.brings⟩
  · intro buffer exit reading returned
    rw [returned] at sound
    refine ⟨fun bytes => sound.begins, ?_, fun error => sound.device, fun limit => sound.timedOut,
      ?_⟩
    · rintro rfl
      exact sound.whole
    · intro later reached
      have winding := reached.winding returned
      exact ⟨winding.collector, winding.sent, winding.queue, winding.almostAll⟩

/-- A reader that brings three letters and is interrupted after the first. -/
def letters : Calls
  | 0 => .bytes [0x61]
  | 1 => .failed (.plain .interrupted)
  | 2 => .bytes [0x62]
  | 3 => .bytes [0x63]
  | _ => .never

/-- The deadline comes while the second letter is in the queue and the pump has
the third one in hand. -/
theorem exchange_overtaken :
    Exists fun state => Reaches letters ⟨1, 0⟩ start state ∧
      state.collector = .returned [0x61] .expired (expire ⟨1, 0⟩ [0x61]) ∧
      state.queue = [.chunk [0x62]] ∧ state.pump = .passing (.chunk [0x63]) ∧
      letters.Begins [0x61] ∧
      forall later, Reaches letters ⟨1, 0⟩ state later ->
        later.collector = state.collector ∧ later.sent = [.chunk [0x61], .chunk [0x62]] := by
  have reached : Reaches letters ⟨1, 0⟩ start
      ⟨4, .passing (.chunk [0x63]), [.chunk [0x61], .chunk [0x62]], [.chunk [0x62]],
        .returned [0x61] .expired (expire ⟨1, 0⟩ [0x61])⟩ := by
    refine .head (.deliver rfl) (.head .pass (.head (.again rfl) ?_))
    refine .head (.deliver rfl) (.head .pass (.head (.receive rfl) ?_))
    exact .head (.deliver rfl) (.single .expire)
  rcases (exchange_lossless reached).2 _ _ _ rfl with ⟨bytes, _, _, _, rest⟩
  refine ⟨_, reached, rfl, rfl, rfl, (bytes [0x61] rfl).2, ?_⟩
  intro later further
  exact ⟨(rest later further).1, (rest later further).2.1⟩

end Exchange

end

/-! ## The timed reading is one of the schedules -/

/-- What the successive calls of a device deliver. -/
def Device.calls (device : Device) : Calls
  | 0 => (device.read chunkSize).1
  | count + 1 => Device.calls (device.read chunkSize).2 count

section

variable {calls : Calls} {timeout : Duration}

/-- When the pump is about to call a device and nothing is queued, one schedule
leads to what is collected from the feed of the device. -/
theorem collectFrom_reached (device : Device) (made : Nat)
    (reads : forall count, calls (made + count) = device.calls count) (sent : List Message)
    (buffer : Bytes) :
    Exists fun state => Exists fun final => Exists fun exit =>
      Exchange.Reaches calls timeout ⟨made, .calling, sent, [], .collecting buffer⟩ state ∧
        state.collector = .returned final exit (collectFrom timeout (feed device) buffer) := by
  induction weighed : device.script.weight using Nat.strongRecOn
    generalizing device made sent buffer with
  | ind weight inductionHypothesis =>
      have first : calls made = (device.read chunkSize).1 := reads 0
      have others : forall count,
          calls (made + 1 + count) = (device.read chunkSize).2.calls count := by
        intro count
        rw [Nat.add_assoc, Nat.add_comm 1 count]
        exact reads (count + 1)
      have next := turn_eq device
      rw [← first] at next
      rw [feed_eq]
      cases response : respond (calls made) with
      | wait =>
          rw [next, response]
          exact ⟨_, _, _, .single .expire, rfl⟩
      | stop =>
          rw [next, response]
          simp only [collectFrom]
          split
          · exact ⟨_, _, _, .head (.stop response) (.single .close), rfl⟩
          · exact ⟨_, _, _, .single .expire, rfl⟩
      | again =>
          simp only [response] at next
          have shorter := weight_turn (congrArg Turn.later? next)
          rw [weighed] at shorter
          rcases inductionHypothesis _ shorter _ (made + 1) others sent buffer rfl with
            ⟨state, final, exit, reached, returned⟩
          rw [next]
          exact ⟨state, final, exit, .head (.again response) reached, returned⟩
      | pass message =>
          cases message with
          | failure error =>
              rw [next, response]
              simp only [collectFrom, react]
              split
              · exact ⟨_, _, _, .head (.deliver response) (.head .pass (.single (.fail rfl))), rfl⟩
              · exact ⟨_, _, _, .single .expire, rfl⟩
          | chunk bytes =>
              simp only [response] at next
              have shorter := weight_turn (congrArg Turn.later? next)
              rw [weighed] at shorter
              rcases inductionHypothesis _ shorter _ (made + 1) others (sent ++ [.chunk bytes])
                (buffer ++ bytes) rfl with ⟨state, final, exit, reached, returned⟩
              rw [next]
              simp only [collectFrom, react]
              split
              · exact ⟨state, final, exit,
                  .head (.deliver response) (.head .pass (.head (.receive rfl) reached)), returned⟩
              · exact ⟨_, _, _, .single .expire, rfl⟩

/-- What a read gives on a clock is what it gives on one of the schedules. -/
theorem collect_reached (timeout : Duration) (script : Script) :
    Exists fun state => Exists fun final => Exists fun exit =>
      Exchange.Reaches (Device.calls ⟨0, script⟩) timeout .start state ∧
        state.collector = .returned final exit (collect timeout script) := by
  apply collectFrom_reached ⟨0, script⟩ 0
  intro count
  rw [Nat.zero_add]

end

end Stream
end Salutation
