import DispatchChain.Proofs.ChainPieces
import DispatchChain.Sink.Limited
/-!
# Refusal — what a sink that runs out of room has taken of a chain

Pieces written one after another are taken as they would be joined (`LimitedSink.writeAll_eq_take`): as far as there is
room, be it within a piece, and nothing after that.  So what a limited sink takes of a chain is as much of its
beginning as there is room for, and it is flushed only if that is all (`Family.writeChain_refused`).
-/
namespace DispatchChain

namespace LimitedSink

/-- Offers bytes once.  A sink that has room takes as many as fit and says how many; one that has none fails, or takes
nothing. -/
def offer (bytes : ByteArray) (sink : LimitedSink) : Except FileError Nat × LimitedSink :=
  match sink.room with
  | none => (.ok bytes.size, { sink with accepted := sink.accepted ++ bytes })
  | some 0 =>
    match sink.refusal with
    | .fails error => (.error error, sink)
    | .takesNothing => (.ok 0, sink)
  | some room =>
    (.ok (min bytes.size room),
      { sink with accepted := sink.accepted ++ bytes.extract 0 room, room := some (room - bytes.size) })

/-- Offers what is left of bytes until all is taken, or an offer fails, or nothing of it is taken. -/
def offerAll (bytes : ByteArray) (sink : LimitedSink) : Except FileError Unit × LimitedSink :=
  if bytes.size = 0 then (.ok (), sink)
  else match offer bytes sink with
    | (.error error, sink) => (.error error, sink)
    | (.ok taken, sink) =>
      if taken = 0 then (.error .nothingTaken, sink) else offerAll (bytes.extract taken bytes.size) sink
termination_by bytes.size
decreasing_by
  rw [ByteArray.size_extract]
  omega

def HasRoom (room : Option Nat) (size : Nat) : Prop := ∀ limit, room = some limit → size ≤ limit

instance (room : Option Nat) (size : Nat) : Decidable (HasRoom room size) :=
  match room with
  | none => .isTrue fun _ eq => by cases eq
  | some limit =>
    decidable_of_iff (size ≤ limit) ⟨fun fits _ eq => Option.some.inj eq ▸ fits, fun fits => fits limit rfl⟩

theorem exists_lt_of_not_hasRoom {room : Option Nat} {size : Nat} (short : ¬ HasRoom room size) :
    ∃ limit, room = some limit ∧ limit < size := by
  cases room with
  | none => exact absurd (fun _ eq => by cases eq) short
  | some limit =>
    refine ⟨limit, rfl, Nat.lt_of_not_le fun fits => short ?_⟩
    rintro _ ⟨⟩
    exact fits

variable {bytes more : ByteArray} {sink : LimitedSink} {limit : Nat}

theorem extract_of_size_le (whole : bytes.size ≤ limit) : bytes.extract 0 limit = bytes := by
  have capped := @ByteArray.extract_zero_max_size bytes limit
  rwa [Nat.max_eq_left whole] at capped

theorem take_of_hasRoom (fits : HasRoom sink.room bytes.size) :
    take bytes sink =
      (.ok (), { sink with accepted := sink.accepted ++ bytes, room := sink.room.map (· - bytes.size) }) := by
  unfold take
  split
  · rename_i unlimited
    rw [unlimited, Option.map_none]
  · rename_i limit limited
    rw [if_pos (fits limit limited), limited, Option.map_some]

theorem take_of_lt (limited : sink.room = some limit) (short : limit < bytes.size) :
    take bytes sink =
      (.error sink.refusal.error,
        { sink with accepted := sink.accepted ++ bytes.extract 0 limit, room := some 0 }) := by
  rw [take, limited]
  exact if_neg (Nat.not_le_of_lt short)

theorem take_of_empty (empty : bytes.size = 0) : take bytes sink = (.ok (), sink) := by
  have fits : HasRoom sink.room bytes.size := fun limit _ => by omega
  have same : sink.room.map (· - bytes.size) = sink.room := by rw [empty]; cases sink.room <;> rfl
  rw [take_of_hasRoom fits, same, ByteArray.size_eq_zero_iff.1 empty, ByteArray.append_empty]

theorem offerAll_of_empty (empty : bytes.size = 0) : offerAll bytes sink = (.ok (), sink) := by
  rw [offerAll, if_pos empty]

theorem offerAll_of_full (some_left : bytes.size ≠ 0) (full : sink.room = some 0) :
    offerAll bytes sink = (.error sink.refusal.error, sink) := by
  rw [offerAll, if_neg some_left, offer, full]
  cases refuses : sink.refusal with
  | fails error => rfl
  | takesNothing => rfl

/-- **A piece is taken as if what is left of it were offered again and again.** -/
theorem take_eq_offerAll (bytes : ByteArray) (sink : LimitedSink) : take bytes sink = offerAll bytes sink := by
  by_cases empty : bytes.size = 0
  · rw [take_of_empty empty, offerAll_of_empty empty]
  have rest : (bytes.extract bytes.size bytes.size).size = 0 := by rw [ByteArray.extract_same, ByteArray.size_empty]
  cases room : sink.room with
  | none =>
    have fits : HasRoom sink.room bytes.size := fun limit eq => by rw [room] at eq; cases eq
    rw [take_of_hasRoom fits, offerAll, if_neg empty, offer, room]
    simp only [if_neg empty, offerAll_of_empty rest, Option.map_none]
  | some limit =>
    cases limit with
    | zero =>
      rw [offerAll_of_full empty room, take_of_lt room (by omega), ByteArray.extract_same, ByteArray.append_empty,
        ← room]
    | succ limit =>
      rw [offerAll, if_neg empty, offer, room]
      simp only
      by_cases fits : bytes.size ≤ limit + 1
      · have hasRoom : HasRoom sink.room bytes.size := fun limit' eq => by rw [room] at eq; cases eq; exact fits
        rw [take_of_hasRoom hasRoom, Nat.min_eq_left fits, if_neg empty, offerAll_of_empty rest,
          extract_of_size_le fits, room]
        rfl
      · -- The first offer fills the sink, the second is refused.
        have short : limit + 1 < bytes.size := by omega
        have full : limit + 1 - bytes.size = 0 := by omega
        have some_left : (bytes.extract (limit + 1) bytes.size).size ≠ 0 := by
          rw [ByteArray.size_extract, Nat.min_self]
          omega
        rw [take_of_lt room short, Nat.min_eq_right (by omega), if_neg (Nat.succ_ne_zero limit), full,
          offerAll_of_full some_left rfl]

/-- **What is taken of bytes in two parts is what is taken of them at once.** -/
theorem take_append (bytes more : ByteArray) (sink : LimitedSink) :
    take (bytes ++ more) sink =
      match take bytes sink with
      | (.error error, sink) => (.error error, sink)
      | (.ok (), sink) => take more sink := by
  by_cases first : HasRoom sink.room bytes.size
  · rw [take_of_hasRoom first]
    simp only
    by_cases second : HasRoom (sink.room.map (· - bytes.size)) more.size
    · have both : HasRoom sink.room (bytes ++ more).size := by
        intro limit eq
        have fits := first limit eq
        have fits' := second (limit - bytes.size) (by rw [eq]; rfl)
        rw [ByteArray.size_append]
        omega
      rw [take_of_hasRoom both, take_of_hasRoom second, ByteArray.append_assoc, ByteArray.size_append]
      cases sink.room with
      | none => rfl
      | some limit => simp only [Option.map_some, Nat.sub_add_eq]
    · obtain ⟨left, eq, short⟩ := exists_lt_of_not_hasRoom second
      obtain ⟨limit, limited, rfl⟩ := Option.map_eq_some_iff.1 eq
      have fits := first limit limited
      rw [take_of_lt limited (by rw [ByteArray.size_append]; omega), take_of_lt eq short, ByteArray.extract_append,
        extract_of_size_le fits, Nat.zero_sub, ByteArray.append_assoc]
  · obtain ⟨limit, limited, short⟩ := exists_lt_of_not_hasRoom first
    have none_more : more.extract (0 - bytes.size) (limit - bytes.size) = .empty := by
      rw [Nat.zero_sub, Nat.sub_eq_zero_of_le (Nat.le_of_lt short), ByteArray.extract_same]
    rw [take_of_lt limited short, take_of_lt limited (by rw [ByteArray.size_append]; omega), ByteArray.extract_append,
      none_more, ByteArray.append_empty]

/-- **Pieces are taken one after another as they would be joined.** -/
theorem writeAll_eq_take : ∀ (pieces : List String) (sink : LimitedSink),
    Sink.writeAll pieces sink = take (String.join pieces).toByteArray sink
  | [], sink => by
    rw [String.join_nil, take_of_empty rfl]
    rfl
  | piece :: pieces, sink => by
    have first : Sink.write piece sink = take piece.toByteArray sink := rfl
    rw [toByteArray_join_cons, take_append, Sink.writeAll, first]
    rcases take piece.toByteArray sink with ⟨_ | _, sink'⟩
    · rfl
    · exact writeAll_eq_take pieces sink'

variable {room : Option Nat} {refusal : Refusal} {flushError : Option FileError} {pieces : List String}

/-- **Pieces that there is room for are all taken, and the sink is flushed once.** -/
theorem writeFlush_of_hasRoom (fits : HasRoom room (String.join pieces).toByteArray.size) :
    Sink.writeFlush pieces (empty room refusal flushError) =
      (match (flushError : Option FileError) with | some error => .error error | none => .ok (),
        { accepted := (String.join pieces).toByteArray
          room := room.map (· - (String.join pieces).toByteArray.size)
          refusal, flushError, flushes := 1 }) := by
  rw [Sink.writeFlush, writeAll_eq_take, take_of_hasRoom fits]
  show flush _ = _
  rw [flush, empty, ByteArray.empty_append]
  cases flushError <;> rfl

/-- **Of pieces that there is no room for as much is taken as fits**, and the sink is not flushed. -/
theorem writeFlush_of_lt (short : limit < (String.join pieces).toByteArray.size) :
    Sink.writeFlush pieces (empty (some limit) refusal flushError) =
      (.error refusal.error, { empty (some 0) refusal flushError with
        accepted := (String.join pieces).toByteArray.extract 0 limit }) := by
  rw [Sink.writeFlush, writeAll_eq_take, take_of_lt rfl short, empty, ByteArray.empty_append]
  rfl

/-- **A sink without limit takes all pieces**, and a flush. -/
theorem writeFlush_of_unlimited (pieces : List String) (refusal : Refusal) :
    Sink.writeFlush pieces (empty none refusal none) =
      (.ok (), { empty none refusal none with accepted := (String.join pieces).toByteArray, flushes := 1 }) :=
  writeFlush_of_hasRoom fun _ eq => by cases eq

end LimitedSink

namespace Family

open LimitedSink

/-- **A sink with limited room takes the beginning of a chain**: as many bytes as it has room for, wherever in the chain
the limit falls.  The chain is written to its end exactly if there is room for all of it and the flush succeeds.  A
sink that took all is flushed once, and another never.  The error answered is that of the refusal if there is not room
for all, and else that of the flush.  Each piece is taken as if what is left of it were offered until all is taken, so
that a sink that takes nothing more is answered for. -/
theorem writeChain_refused (family : Family) (log : Log) (room : Option Nat) (refusal : Refusal)
    (flushError : Option FileError) :
    let chain := family.render.toByteArray
    let written := family.writeChain log (LimitedSink.empty room refusal flushError)
    written.2.2.accepted = chain.extract 0 (room.elim chain.size (min · chain.size)) ∧
    (written.1 = .ok family.count ↔ HasRoom room chain.size ∧ flushError = none) ∧
    written.2.2.flushes = (if HasRoom room chain.size then 1 else 0) ∧
    (∀ limit, room = some limit → limit < chain.size → written.1 = .error refusal.error) ∧
    (∀ error, HasRoom room chain.size → flushError = some error → written.1 = .error error) ∧
    ∀ (piece : String) (sink : LimitedSink), Sink.write piece sink = offerAll piece.toByteArray sink := by
  intro chain written
  have chain_eq : (String.join (linePieces family.lines)).toByteArray = chain := by
    rw [← render_eq_join]
  have pieces : ∀ (piece : String) (sink : LimitedSink), Sink.write piece sink = offerAll piece.toByteArray sink :=
    fun piece sink => take_eq_offerAll piece.toByteArray sink
  obtain ⟨answer, left⟩ := writeChain_eq_writeFlush family log (LimitedSink.empty room refusal flushError)
  change written.1 = _ at answer
  change written.2.2 = _ at left
  by_cases fits : HasRoom room chain.size
  · rw [writeFlush_of_hasRoom (chain_eq ▸ fits)] at answer left
    have all : room.elim chain.size (min · chain.size) = chain.size := by
      cases room with
      | none => rfl
      | some limit => exact Nat.min_eq_right (fits limit rfl)
    rw [answer, left, all, if_pos fits, chain_eq]
    refine ⟨ByteArray.extract_zero_size.symm, ?_, rfl, ?_, ?_, pieces⟩
    · cases flushError <;> simp [Except.map, fits]
    · intro limit limited short
      exact absurd (fits limit limited) (Nat.not_le_of_lt short)
    · rintro error - rfl
      rfl
  · obtain ⟨limit, rfl, short⟩ := exists_lt_of_not_hasRoom fits
    rw [writeFlush_of_lt (chain_eq ▸ short)] at answer left
    have begun : (some limit).elim chain.size (min · chain.size) = limit := Nat.min_eq_left (Nat.le_of_lt short)
    rw [answer, left, begun, if_neg fits, chain_eq]
    refine ⟨rfl, ?_, rfl, fun _ _ _ => rfl, fun _ fits' _ => absurd fits' fits, pieces⟩
    simp [Except.map, fits]

/-- The limit falls into the first clause, and the sink takes nothing more; without a limit the flush fails. -/
theorem swap_refused :
    let chain := swap.render.toByteArray
    let written := swap.writeChain (.empty none) (LimitedSink.empty (some 25) .takesNothing none)
    25 < chain.size ∧ written.1 = .error .nothingTaken ∧ written.2.2.accepted = chain.extract 0 (min 25 chain.size) ∧
      written.2.2.flushes = 0 ∧
      (swap.writeChain (.empty none) (LimitedSink.empty none .takesNothing (some .deviceFull))).1 =
        .error .deviceFull := by
  intro chain written
  have short : 25 < chain.size := by decide +kernel
  have refused := writeChain_refused swap (.empty none) (some 25) .takesNothing none
  have unlimited := writeChain_refused swap (.empty none) none .takesNothing (some .deviceFull)
  have flushes : written.2.2.flushes = if HasRoom (some 25) chain.size then 1 else 0 := refused.2.2.1
  rw [if_neg fun fits : HasRoom (some 25) chain.size => Nat.not_le_of_lt short (fits 25 rfl)] at flushes
  exact ⟨short, refused.2.2.2.1 25 rfl short, refused.1, flushes,
    unlimited.2.2.2.2.1 .deviceFull (fun _ eq => by cases eq) rfl⟩

end Family

end DispatchChain
