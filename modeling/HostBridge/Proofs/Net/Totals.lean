import HostBridge.Proofs.Net.Turn
import HostBridge.Proofs.Text.Spelling
import Mathlib.Algebra.GroupWithZero.Nat

/-!
# What a client sums up

A client adds up how long its calls took, by the clock and by what the replies tell.  The sums are
of 64 bits, so they are right up to a multiple of their size, and a call that makes one wrap around
leaves it smaller than it was.

Main statements: what a call takes by the clock (`NetTurn.elapsed?_eq`) and by its reply
(`NetTurn.cost_of_tells`, `NetTurn.cost_of_silent`), what a counter that is added to has after a run
(`Accumulates.sum_after`), and the totals of a client (`NetSession.totals`).
-/

namespace HostBridge

namespace NetTurn

variable {turn : NetTurn}

/-! ### What a call takes -/

/-- The milliseconds between the readings of the clock, any two of them; 0 if the clock went
back. -/
def duration (turn : NetTurn) : ℕ := (turn.ended.toInt - turn.started.toInt).toNat

/-- The readings of the clock are so far apart that their difference has no 64 bits. -/
def IsTooLong (turn : NetTurn) : Prop :=
  turn.ended.toInt - turn.started.toInt < int64Min ∨
    int64Max < turn.ended.toInt - turn.started.toInt

/-- The header field with the time within the native side spells a number of 64 bits. -/
def Tells (turn : NetTurn) (number : ℕ) : Prop :=
  ∃ info text, turn.info? = some info ∧
    (NetResponse.ofMeta info turn.reply[1]?).header? nativeCostHeader = some text ∧
      Text.Spells text number ∧ number < UInt64.size

/-- The milliseconds that the reply tells; 0 if it tells none. -/
def cost (turn : NetTurn) : ℕ :=
  match turn.info? with
  | none => 0
  | some info => ((NetResponse.ofMeta info turn.reply[1]?).nativeCost?.getD 0).toNat

/-- What a call costs fits into 64 bits. -/
theorem cost_lt (turn : NetTurn) : turn.cost < UInt64.size := by
  unfold cost
  split
  · decide
  · exact UInt64.toNat_lt _

/-- Whether the call is made and its readings can be subtracted. -/
def isTimed (turn : NetTurn) : Bool := turn.isAccepted && turn.elapsed?.isSome

/-- The readings can be subtracted unless they are too far apart, and then give the time between
them. -/
theorem elapsed?_eq :
    turn.elapsed? = none ∧ turn.IsTooLong ∨
      ∃ elapsed, turn.elapsed? = some elapsed ∧ ¬ turn.IsTooLong ∧
        elapsed.toNat = turn.duration := by
  unfold elapsed? elapsedMs? IsTooLong duration
  dsimp only
  split
  next within =>
    refine .inr ⟨_, rfl, by omega, UInt64.toNat_ofNat_of_lt' ?_⟩
    have most : turn.ended.toInt - turn.started.toInt ≤ 9223372036854775807 := within.2
    have size : UInt64.size = 18446744073709551616 := rfl
    omega
  next apart => exact .inl ⟨rfl, by omega⟩

/-- The native cost is what the text of the header field spells. -/
theorem nativeCost?_eq_some_iff {response : NetResponse} {value : UInt64} :
    response.nativeCost? = some value ↔
      ∃ text, response.header? nativeCostHeader = some text ∧ Text.Spells text value.toNat := by
  rw [NetResponse.nativeCost?, Option.bind_eq_some_iff]
  refine exists_congr fun text => and_congr_right fun _ => ?_
  rw [Text.spells_iff, ← Text.readUInt64_eq_ok_iff]
  cases Text.readUInt64 (Text.trim text) <;> simp [Except.toOption]

/-- A call costs what its header tells. -/
theorem cost_of_tells {number : ℕ} (tells : turn.Tells number) : turn.cost = number := by
  obtain ⟨info, text, read, found, spells, small⟩ := tells
  have value : (UInt64.ofNat number).toNat = number := UInt64.toNat_ofNat_of_lt' small
  have told : (NetResponse.ofMeta info turn.reply[1]?).nativeCost? = some (.ofNat number) :=
    nativeCost?_eq_some_iff.mpr ⟨text, found, value.symm ▸ spells⟩
  simp only [cost, read, told, Option.getD_some, value]

/-- A call whose header tells nothing costs nothing. -/
theorem cost_of_silent (silent : ∀ number, ¬ turn.Tells number) : turn.cost = 0 := by
  unfold cost
  cases read : turn.info? with
  | none => rfl
  | some info =>
      dsimp only
      cases told : (NetResponse.ofMeta info turn.reply[1]?).nativeCost? with
      | none => rfl
      | some value =>
          obtain ⟨text, found, spells⟩ := nativeCost?_eq_some_iff.mp told
          exact absurd ⟨info, text, read, found, spells, value.toNat_lt⟩ (silent value.toNat)

/-- A call is timed if it is accepted and its readings are not too far apart. -/
theorem isTimed_iff : turn.isTimed = true ↔ turn.isAccepted = true ∧ ¬ turn.IsTooLong := by
  rw [isTimed, Bool.and_eq_true]
  refine and_congr_right fun _ => ?_
  obtain ⟨overflowed, apart⟩ | ⟨elapsed, measured, within, _⟩ := turn.elapsed?_eq
  · rw [overflowed]
    exact iff_of_false Bool.false_ne_true (not_not.mpr apart)
  · rw [measured]
    exact iff_of_true rfl within

/-- What a call adds to the time by the clock. -/
def timeAdded (turn : NetTurn) : ℕ := if turn.isTimed then turn.duration else 0

/-- What a call adds to the time within the native side. -/
def costAdded (turn : NetTurn) : ℕ := if turn.isTimed then turn.cost else 0

/-- The time that a call adds fits into 64 bits. -/
theorem timeAdded_lt (turn : NetTurn) : turn.timeAdded < UInt64.size := by
  rw [timeAdded, isTimed]
  obtain ⟨overflowed, _⟩ | ⟨elapsed, _, _, duration⟩ := turn.elapsed?_eq
  · rw [overflowed, Option.isSome_none, Bool.and_false, if_neg Bool.false_ne_true]
    decide
  · rw [← duration]
    split
    · exact elapsed.toNat_lt
    · decide

/-- The cost that a call adds fits into 64 bits. -/
theorem costAdded_lt (turn : NetTurn) : turn.costAdded < UInt64.size := by
  rw [costAdded]
  split
  · exact turn.cost_lt
  · decide

end NetTurn

namespace NetClient

variable {turn : NetTurn} (client : NetClient) (elapsed : UInt64)

/-- What a call that has come back leaves of the client. -/
theorem client_settle :
    (client.settle turn.request elapsed turn.reply).client =
      { client with
        stats :=
          ⟨client.stats.calls + 1, client.stats.transportFailures + if turn.info?.isNone then 1 else 0,
            client.stats.totalElapsedMs + elapsed,
            client.stats.totalNativeMs + .ofNat turn.cost⟩ } := by
  unfold settle NetTurn.cost
  cases read : turn.info? with
  | none =>
      rw [turn.ofSegments_of_unread client.complain read]
      dsimp only
      rw [Option.isNone_none, if_pos rfl, show UInt64.ofNat 0 = 0 from rfl, UInt64.add_zero]
  | some info =>
      rw [turn.ofSegments_of_read client.complain read]
      dsimp only
      rw [UInt64.ofNat_toNat, Option.isNone_some, if_neg Bool.false_ne_true, UInt64.add_zero]

end NetClient

/-- A counter of 64 bits to which every call adds its part. -/
structure Accumulates (total : NetStats → UInt64) (part : NetTurn → ℕ) : Prop where
  small : ∀ turn, part turn < UInt64.size
  step : ∀ (session : NetSession) turn, (total (session.take turn).1.client.stats).toNat =
    ((total session.client.stats).toNat + part turn) % UInt64.size

namespace Accumulates

variable {total : NetStats → UInt64} {part : NetTurn → ℕ}

/-- A counter to which every call adds a small part accumulates them. -/
theorem of_added (small : ∀ turn, part turn < UInt64.size)
    (added : ∀ (session : NetSession) turn, total (session.take turn).1.client.stats =
      total session.client.stats + .ofNat (part turn)) : Accumulates total part where
  small := small
  step session turn := by
    rw [added, UInt64.toNat_add, UInt64.toNat_ofNat_of_lt' (small turn)]

/-- After a run a counter has the sum of the parts, up to a multiple of its size. -/
theorem sum_after (adds : Accumulates total part) (session : NetSession) (turns : List NetTurn) :
    (total (session.after turns).client.stats).toNat =
      ((total session.client.stats).toNat + (turns.map part).sum) % UInt64.size := by
  induction turns generalizing session with
  | nil => exact (Nat.mod_eq_of_lt (UInt64.toNat_lt _)).symm
  | cons turn turns ih =>
      have later := ih (session.take turn).1
      rw [adds.step, Nat.mod_add_mod, Nat.add_assoc] at later
      rw [List.map_cons, List.sum_cons]
      exact later

/-- A call makes a counter smaller if and only if the sum has no 64 bits. -/
theorem le_step_iff (adds : Accumulates total part) (session : NetSession) (turn : NetTurn) :
    total session.client.stats ≤ total (session.take turn).1.client.stats ↔
      (total session.client.stats).toNat + part turn < UInt64.size := by
  have size : UInt64.size = 18446744073709551616 := rfl
  have before : (total session.client.stats).toNat < UInt64.size := UInt64.toNat_lt _
  have small := adds.small turn
  rw [UInt64.le_iff_toNat_le, adds.step]
  rw [size] at before small ⊢
  omega

end Accumulates

namespace NetSession

variable {session : NetSession} {turn : NetTurn}

/-- A call overflows if and only if it is accepted and its readings are too far apart. -/
theorem outcome_eq_overflowed_iff :
    (session.take turn).2.2 = .overflowed ↔ turn.isAccepted = true ∧ turn.IsTooLong := by
  cases accepted : turn.isAccepted with
  | false =>
      rw [take_of_refused accepted]
      exact iff_of_false (nomatch ·) (nomatch ·.1)
  | true =>
      obtain ⟨overflowed, apart⟩ | ⟨elapsed, measured, within, _⟩ := turn.elapsed?_eq
      · rw [take_of_overflowed accepted overflowed]
        exact iff_of_true rfl ⟨rfl, apart⟩
      · rw [take_of_accepted accepted measured]
        exact iff_of_false (nomatch ·) (within ·.2)

/-- A call whose readings can be subtracted is settled, and no other one changes the client. -/
theorem client_take (session : NetSession) (turn : NetTurn) :
    turn.isTimed = false ∧ (session.take turn).1.client = session.client ∨
      turn.isTimed = true ∧ ∃ elapsed, elapsed.toNat = turn.duration ∧
        (session.take turn).1.client =
          (session.client.settle turn.request elapsed turn.reply).client := by
  rw [NetTurn.isTimed]
  cases accepted : turn.isAccepted with
  | false =>
      rw [take_of_refused accepted]
      exact .inl ⟨rfl, rfl⟩
  | true =>
      obtain ⟨overflowed, _⟩ | ⟨elapsed, measured, _, duration⟩ := turn.elapsed?_eq
      · rw [overflowed, take_of_overflowed accepted overflowed]
        exact .inl ⟨rfl, rfl⟩
      · rw [measured, take_of_accepted accepted measured]
        exact .inr ⟨rfl, elapsed, duration, rfl⟩

/-- A call adds its time and its cost to the totals. -/
theorem totals_take (session : NetSession) (turn : NetTurn) :
    let stats := (session.take turn).1.client.stats
    stats.totalElapsedMs = session.client.stats.totalElapsedMs + .ofNat turn.timeAdded ∧
      stats.totalNativeMs = session.client.stats.totalNativeMs + .ofNat turn.costAdded := by
  rw [NetTurn.timeAdded, NetTurn.costAdded]
  obtain ⟨untimed, same⟩ | ⟨timed, elapsed, duration, settled⟩ := session.client_take turn
  · rw [untimed, same, if_neg Bool.false_ne_true, if_neg Bool.false_ne_true]
    exact ⟨(UInt64.add_zero _).symm, (UInt64.add_zero _).symm⟩
  · rw [timed, settled, if_pos rfl, if_pos rfl, NetClient.client_settle, ← duration,
      UInt64.ofNat_toNat]
    exact ⟨rfl, rfl⟩

/-- The time by the clock accumulates. -/
theorem accumulates_elapsed : Accumulates NetStats.totalElapsedMs NetTurn.timeAdded :=
  .of_added NetTurn.timeAdded_lt fun session turn => (session.totals_take turn).1

/-- The time within the native side accumulates. -/
theorem accumulates_native : Accumulates NetStats.totalNativeMs NetTurn.costAdded :=
  .of_added NetTurn.costAdded_lt fun session turn => (session.totals_take turn).2

/-- A run is a shorter one and its last call. -/
theorem after_snoc (session : NetSession) (turns : List NetTurn) (turn : NetTurn) :
    session.after (turns ++ [turn]) = ((session.after turns).take turn).1 :=
  List.foldl_concat ..

/-- What a counter of a client has come to over a sequence of calls. -/
structure Sums (total : NetStats → UInt64) (part : NetTurn → ℕ) (session : NetSession)
    (turns : List NetTurn) : Prop where
  rest : (total (session.after turns).client.stats).toNat =
    ((total session.client.stats).toNat + (turns.map part).sum) % UInt64.size
  /-- The sum is exact if it has 64 bits. -/
  fitting : (total session.client.stats).toNat + (turns.map part).sum < UInt64.size →
    (total (session.after turns).client.stats).toNat =
      (total session.client.stats).toNat + (turns.map part).sum
  /-- The next call makes it no smaller if and only if the new sum has 64 bits. -/
  grows : ∀ turn, total (session.after turns).client.stats ≤
      total (session.after (turns ++ [turn])).client.stats ↔
    (total (session.after turns).client.stats).toNat + part turn < UInt64.size

/-- A counter that accumulates is the sum of the parts, up to its size. -/
theorem sums_of_accumulates {total : NetStats → UInt64} {part : NetTurn → ℕ}
    (adds : Accumulates total part) (session : NetSession) (turns : List NetTurn) :
    Sums total part session turns where
  rest := adds.sum_after session turns
  fitting fits := (adds.sum_after session turns).trans (Nat.mod_eq_of_lt fits)
  grows turn := by
    rw [after_snoc]
    exact adds.le_step_iff (session.after turns) turn

/-- What the totals of a client come to over a sequence of calls, whatever the clock reads and the
engine answers. -/
structure Totals (session : NetSession) (turns : List NetTurn) : Prop where
  /-- A call that is made fails if and only if its readings cannot be subtracted, … -/
  overflows : ∀ turn, ((session.after turns).take turn).2.2 = .overflowed ↔
    turn.isAccepted = true ∧ turn.IsTooLong
  /-- … and then nothing is counted or announced. -/
  unmoved : ∀ turn, turn.isAccepted = true → turn.IsTooLong →
    (session.after (turns ++ [turn])).client = (session.after turns).client ∧
      (session.after (turns ++ [turn])).bus = (session.after turns).bus
  /-- All other calls that are made are timed. -/
  timed : ∀ turn : NetTurn, turn.isTimed = true ↔ turn.isAccepted = true ∧ ¬ turn.IsTooLong
  told : ∀ (turn : NetTurn) number, turn.Tells number → turn.cost = number
  silent : ∀ turn : NetTurn, (∀ number, ¬ turn.Tells number) → turn.cost = 0
  elapsed : Sums NetStats.totalElapsedMs NetTurn.timeAdded session turns
  native : Sums NetStats.totalNativeMs NetTurn.costAdded session turns

/-- The totals of a client are the sums of what its calls took, by the clock and by their replies,
up to a multiple of their size; they are exact and do not shrink as long as the sums have 64
bits. -/
theorem totals (session : NetSession) (turns : List NetTurn) : Totals session turns where
  overflows _ := outcome_eq_overflowed_iff
  unmoved turn accepted apart := by
    have overflowed : turn.elapsed? = none := by
      obtain ⟨overflowed, _⟩ | ⟨_, _, within, _⟩ := turn.elapsed?_eq
      · exact overflowed
      · exact absurd apart within
    rw [after_snoc, take_of_overflowed accepted overflowed]
    exact ⟨rfl, rfl⟩
  timed _ := NetTurn.isTimed_iff
  told _ _ := NetTurn.cost_of_tells
  silent _ := NetTurn.cost_of_silent
  elapsed := sums_of_accumulates accumulates_elapsed session turns
  native := sums_of_accumulates accumulates_native session turns

/-- Two replies whose costs do not fit together into 64 bits make the total smaller than it was, and
readings at both ends of the clock cannot be subtracted. -/
theorem totals_wrap :
    let info (cost : String) : NetMeta :=
      ⟨200, none, none, Table.empty.insert nativeCostHeader cost, none, none⟩
    let turn (cost : String) : NetTurn := ⟨.get "http://a", (info cost).segments none, 0, 0⟩
    let long : NetTurn := ⟨.get "http://a", [], -9223372036854775808, 9223372036854775807⟩
    let session := NetSession.new false .silent true true []
    (turn "18446744073709551615").cost = 18446744073709551615 ∧ (turn "2").cost = 2 ∧
      (session.after [turn "18446744073709551615"]).client.stats.totalNativeMs =
        18446744073709551615 ∧
      (session.after [turn "18446744073709551615", turn "2"]).client.stats.totalNativeMs = 1 ∧
      (session.take long).2.2 = .overflowed := by
  intro info turn long session
  have read (cost : String) : (turn cost).info? = some (info cost) :=
    NetTurn.info?_of_segments rfl
  have most : (turn "18446744073709551615").cost = 18446744073709551615 := by
    rw [NetTurn.cost, read]
    decide
  have two : (turn "2").cost = 2 := by
    rw [NetTurn.cost, read]
    decide
  have accepted : decide (Text.trim "http://a" ≠ "") = true := by decide
  have measured : (elapsedMs? 0 0).isSome = true := by decide
  have added (cost : String) : (turn cost).costAdded = (turn cost).cost :=
    if_pos ((Bool.and_eq_true _ _).mpr ⟨accepted, measured⟩)
  refine ⟨most, two, ?_, ?_, outcome_eq_overflowed_iff.mpr ⟨accepted, .inr (by decide)⟩⟩
  · rw [← UInt64.toNat_inj, accumulates_native.sum_after, List.map_singleton, List.sum_singleton,
      added, most]
    decide
  · rw [← UInt64.toNat_inj, accumulates_native.sum_after, List.map_cons, List.map_singleton,
      List.sum_cons, List.sum_singleton, added, added, most, two]
    decide

end NetSession

end HostBridge
