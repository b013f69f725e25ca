import Salutation.Proofs.Json.Unread

namespace Salutation
namespace Json

/-!
# Where readers stop

The line and the column of a complaint are computed from the number of bytes
that were not consumed.  This makes sense because a reader leaves the end of its
input unread: the consumed bytes are then those before an offset, and the
position is the one just behind them.
-/

open Grammar

/-! ## Lines and columns -/

/-- Where the last line of some bytes starts: just after the last line feed, or
at the beginning when there is none. -/
inductive StartsLastLine : Bytes -> Nat -> Prop
  | only {bytes : Bytes} : 0x0a ∉ bytes -> StartsLastLine bytes 0
  | after {before line : Bytes} :
      0x0a ∉ line -> StartsLastLine (before ++ 0x0a :: line) (before.length + 1)

/-- The bytes of the last line stand at the end. -/
theorem lastLine_append {before line : Bytes} (plain : 0x0a ∉ line) :
    ((before ++ 0x0a :: line).reverse.takeWhile (· != 0x0a)).length = line.length := by
  have passes : forall byte, byte ∈ line.reverse -> (byte != 0x0a) = true := by
    intro byte member
    rw [bne_iff_ne]
    rintro rfl
    exact plain (List.mem_reverse.mp member)
  have stops : List.takeWhile (· != (0x0a : UInt8)) (0x0a :: before.reverse) = [] := by
    rw [List.takeWhile_cons]
    rfl
  rw [List.reverse_append, List.reverse_cons, List.append_assoc, List.singleton_append,
    List.takeWhile_append_of_pos passes, stops, List.append_nil, List.length_reverse]

theorem exists_startsLastLine (bytes : Bytes) :
    Exists fun start => StartsLastLine bytes start ∧ start <= bytes.length ∧
      (Position.after bytes).column = bytes.length - start := by
  by_cases broken : 0x0a ∈ bytes
  · rcases List.eq_append_cons_of_mem (List.mem_reverse.mpr broken) with
      ⟨line, before, split, plain⟩
    have whole : bytes = before.reverse ++ 0x0a :: line.reverse := by
      rw [← List.reverse_reverse bytes, split, List.reverse_append, List.reverse_cons,
        List.append_assoc, List.singleton_append]
    have last : 0x0a ∉ line.reverse := fun member => plain (List.mem_reverse.mp member)
    rw [whole]
    refine ⟨_, .after last, ?_, ?_⟩
    · simp only [List.length_append, List.length_cons]
      omega
    · rw [Position.after, lastLine_append last]
      simp only [List.length_append, List.length_cons]
      omega
  · have passes : forall byte, byte ∈ bytes.reverse -> (byte != 0x0a) = true := by
      intro byte member
      rw [bne_iff_ne]
      rintro rfl
      exact broken (List.mem_reverse.mp member)
    refine ⟨0, .only broken, Nat.zero_le _, ?_⟩
    have whole : bytes.reverse.takeWhile (· != 0x0a) = bytes.reverse := by
      rw [← List.append_nil bytes.reverse, List.takeWhile_append_of_pos passes,
        List.takeWhile_nil]
    rw [Position.after, whole, List.length_reverse, Nat.sub_zero]

/-! ## Whole texts -/

/-- An offset in an input, with its line and its column.  Lines count from one,
and a column is the distance from the start of its line. -/
structure Points (input : Bytes) (offset line column : Nat) : Prop where
  inside : offset <= input.length
  line : line = 1 + (input.take offset).count 0x0a
  column : Exists fun start => StartsLastLine (input.take offset) start ∧
    start <= offset ∧ column = offset - start

/-- The position after the first bytes of an input points behind them. -/
theorem points_after {input : Bytes} {offset : Nat} (inside : offset <= input.length) :
    Points input offset (Position.after (input.take offset)).line
      (Position.after (input.take offset)).column := by
  rcases exists_startsLastLine (input.take offset) with ⟨start, starts, bound, column⟩
  have whole : (input.take offset).length = offset := List.length_take_of_le inside
  rw [whole] at bound column
  exact ⟨inside, rfl, start, starts, bound, column⟩

/-- Where a whole text is given up: at a fault of its reader, or just behind the
first byte that follows a result and is no separator. -/
inductive GivesUp {Result : Type} (reader : Reader Result) (input : Bytes) : Fault -> Prop
  | early {fault : Fault} : reader input = .error fault -> GivesUp reader input fault
  | late {result : Result} {gap rest : Bytes} {byte : UInt8} :
      reader input = .ok (result, gap ++ byte :: rest) -> Gap gap ->
      Bytes.isSeparator byte = false -> GivesUp reader input ⟨.trailingBytes, rest⟩

/-- A message that ends in the place at which a reader has given up, after its
cause and whatever leads up to it. -/
def Located {Result : Type} (reader : Reader Result) (input : Bytes)
    (lead message : String) : Prop :=
  Exists fun fault => Exists fun offset => Exists fun line => Exists fun column =>
    GivesUp reader input fault ∧ fault.rest = input.drop offset ∧
      Points input offset line column ∧
      message = lead ++ (fault.cause.message ++ " at line " ++ toString line ++
        " column " ++ toString column)

theorem GivesUp.within {Result : Type} {reader : Reader Result} {input : Bytes} {fault : Fault}
    (within : ReadsWithin reader) (givesUp : GivesUp reader input fault) :
    List.IsSuffix fault.rest input := by
  cases givesUp with
  | early refused => exact (within input).fault _ refused
  | @late result gap rest byte read _ _ =>
      have ends : List.IsSuffix (gap ++ byte :: rest) input := (within input).result _ read
      have behind : List.IsSuffix rest (gap ++ byte :: rest) :=
        (List.suffix_cons byte rest).trans (List.suffix_append _ _)
      exact behind.trans ends

theorem givesUp_of_refused {Result : Type} {reader : Reader Result} {input : Bytes}
    {complaint : Complaint} (refused : readAll reader input = .error complaint) :
    Exists fun fault => GivesUp reader input fault ∧ complaint = fault.locate input := by
  unfold readAll at refused
  split at refused
  · next fault failed =>
      cases refused
      exact ⟨fault, .early failed, rfl⟩
  · next result rest read =>
      split at refused
      · cases refused
      · next byte after skipped =>
          cases refused
          rcases (skipSeparators_eq_cons_iff _ _ _).mp skipped with
            ⟨plain, gap, separators, split⟩
          rw [split] at read
          exact ⟨_, .late read separators plain, rfl⟩

/-- What is said about a whole text ends in a place of it. -/
theorem located_of_refused {Result : Type} {reader : Reader Result} (within : ReadsWithin reader)
    {input : Bytes} {complaint : Complaint} (refused : readAll reader input = .error complaint)
    (lead : String) : Located reader input lead (lead ++ complaint.message) := by
  rcases givesUp_of_refused refused with ⟨fault, givesUp, rfl⟩
  have ends := givesUp.within within
  have rest : fault.rest = input.drop (input.length - fault.rest.length) :=
    List.suffix_iff_eq_drop.mp ends
  exact ⟨fault, _, _, _, givesUp, rest, points_after (Nat.sub_le _ _), rfl⟩

end Json
end Salutation
