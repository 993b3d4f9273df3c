import KinuxKernel.SpiFrames

/-!
# The result of a write

`ws2812_write` encodes what it has received before it looks at the result of the copy,
and `ws2812_write_sync` returns zero for every result of the transfer.
-/

namespace KinuxKernel

namespace SpiRing

open BlockHeap

variable {Address : Type*} [DecidableEq Address] {ring : Ring Address} {tx encoded : Address}
  {bytes cells : List Byte} {data : UserData} {result : Int}

/-- The write is refused exactly when the frame has not been transmitted successfully,
it returns the number of bytes otherwise, and a failed copy leaves both buffers as they
were. -/
structure TellsTruth (ring : Ring Address) (tx encoded : Address) (data : UserData) (result : Int)
    (written : Written Address) : Prop where
  refused : written.ret < 0 ↔ ¬ (written.transfer.isSome ∧ result = 0)
  count : ¬ written.ret < 0 → written.ret = data.bytes.length
  unchanged : written.ret = -EFAULT → written.ring.heap tx = ring.heap tx ∧
    written.ring.heap encoded = ring.heap encoded

/-- A write to the ring, `result` being the result of `spi_sync_locked`. -/
def WriteTellsTruth (ring : Ring Address) (tx encoded : Address) (data : UserData)
    (result : Int) : Prop :=
  ∃ written, ws2812Write ring data result = some written ∧
    TellsTruth ring tx encoded data result written

/-- A write whose data could not all be copied has encoded the zeros in its place. -/
theorem Opened.partial_write (opened : Opened ring tx encoded bytes cells)
    (fits : data.bytes.length ≤ 48) (partly : data.uncopied ≠ 0) :
    WriteTellsTruth ring tx encoded data result ↔
      sent bytes data = bytes ∧ SpiRing.encode bytes = cells := by
  obtain ⟨written, writing, -, holds, ret, transfer⟩ := opened.write data fits result
  rw [if_pos partly] at ret transfer
  constructor
  · rintro ⟨other, same, truth⟩
    obtain rfl := Option.some.inj (writing.symm.trans same)
    obtain ⟨sameSource, sameTarget⟩ := truth.unchanged ret
    rw [holds.source, opened.source] at sameSource
    rw [holds.target, opened.target] at sameTarget
    have kept := Option.some.inj sameSource
    rw [kept] at sameTarget
    exact ⟨kept, Option.some.inj sameTarget⟩
  · rintro ⟨kept, encodes⟩
    rw [kept, encodes] at holds
    refine ⟨written, writing, ?_, ?_, ?_⟩
    · simp [ret, transfer, EFAULT]
    · simp [ret, EFAULT]
    · intro _
      rw [holds.source, holds.target, opened.source, opened.target]
      exact ⟨rfl, rfl⟩

/-- A write whose data has been copied returns zero whenever there is a device. -/
theorem Opened.whole_write (opened : Opened ring tx encoded bytes cells)
    (fits : data.bytes.length ≤ 48) (whole : data.uncopied = 0) :
    WriteTellsTruth ring tx encoded data result ↔
      ring.ws2812.spi = none ∨ (result = 0 ∧ data.bytes = []) := by
  obtain ⟨written, writing, -, -, ret, transfer⟩ := opened.write data fits result
  have copied : ¬ data.uncopied ≠ 0 := not_not.mpr whole
  rw [if_neg copied] at ret transfer
  cases device : ring.ws2812.spi with
  | none =>
      rw [submitted, device, Option.map_none] at transfer
      rw [device, Option.isSome_none, if_neg Bool.false_ne_true] at ret
      apply iff_of_true _ (.inl rfl)
      refine ⟨written, writing, ?_, ?_, ?_⟩
      · simp [ret, transfer, ESHUTDOWN]
      · simp [ret, ESHUTDOWN]
      · simp [ret, ESHUTDOWN, EFAULT]
  | some spi =>
      rw [submitted, device, Option.map_some] at transfer
      rw [device, Option.isSome_some, if_pos rfl] at ret
      constructor
      · rintro ⟨other, same, truth⟩
        obtain rfl := Option.some.inj (writing.symm.trans same)
        have refused := truth.refused
        have count := truth.count
        simp [ret, transfer] at refused count
        exact .inr ⟨refused, List.eq_nil_of_length_eq_zero (by omega)⟩
      · rintro (impossible | ⟨rfl, empty⟩)
        · cases impossible
        · refine ⟨written, writing, ?_, ?_, ?_⟩
          · simp [ret, transfer]
          · simp [ret, empty]
          · simp [ret, EFAULT]

/-- A write of at most 48 bytes to an opened device tells the truth if and only if
either its copy fails and would have changed neither buffer, or the copy succeeds and
there is no device or the write is an empty one that is transmitted. -/
theorem write_tells_truth_iff (opened : Opened ring tx encoded bytes cells)
    (fits : data.bytes.length ≤ 48) :
    WriteTellsTruth ring tx encoded data result ↔
      (data.uncopied ≠ 0 ∧ sent bytes data = bytes ∧ encode bytes = cells) ∨
        (data.uncopied = 0 ∧
          (ring.ws2812.spi = none ∨ (result = 0 ∧ data.bytes = []))) := by
  by_cases whole : data.uncopied = 0
  · rw [opened.whole_write fits whole]
    simp [whole]
  · rw [opened.partial_write fits whole]
    simp [whole]

/-- The device as the board registers it, opened. -/
theorem exists_opened :
    ∃ ring : Ring Nat, ws2812Open (probed ⟨6400000, 1, 3, 24⟩) 0 1 = some ring ∧
      Opened ring 0 1 (List.replicate 48 0) (List.replicate (48 * 8) 0) ∧
      ring.ws2812.spi = some ⟨6400000, 1, 3, 24⟩ := by
  obtain ⟨ring, opening⟩ := @exists_open Nat _ (probed ⟨6400000, 1, 3, 24⟩) 0 1 rfl rfl (by decide)
  exact ⟨ring, opening, opened_of_open opening, open_spi opening⟩

/-- After a write of one byte, a write of the same byte and one that cannot be copied. -/
theorem failed_copy_tells_truth :
    ∃ ring : Ring Nat, ∃ first, ws2812Open (probed ⟨6400000, 1, 3, 24⟩) 0 1 = some ring ∧
      ws2812Write ring (.whole [200]) 0 = some first ∧
      WriteTellsTruth first.ring 0 1 ⟨[200, 5], 1, by decide⟩ 0 := by
  obtain ⟨ring, opening, opened, -⟩ := exists_opened
  obtain ⟨first, writing, -, holds, -, -⟩ := opened.write (.whole [200]) (by decide) 0
  refine ⟨ring, first, opening, writing, ?_⟩
  exact (write_tells_truth_iff holds (by decide)).mpr (.inl ⟨by decide, by decide, rfl⟩)

/-- One byte is written and transmitted, or the transfer fails, or the byte cannot be
copied: the write returns zero twice, and has changed the encoded buffer in the end. -/
theorem writes_tell_no_truth :
    ∃ ring : Ring Nat, ws2812Open (probed ⟨6400000, 1, 3, 24⟩) 0 1 = some ring ∧
      ¬ WriteTellsTruth ring 0 1 (.whole [200]) 0 ∧
      ¬ WriteTellsTruth ring 0 1 (.whole [200]) (-5) ∧
      ¬ WriteTellsTruth ring 0 1 ⟨[200], 1, by decide⟩ 0 := by
  obtain ⟨ring, opening, opened, device⟩ := exists_opened
  refine ⟨ring, opening, ?_, ?_, ?_⟩
  · rw [opened.whole_write (by decide) rfl, device]
    decide
  · rw [opened.whole_write (by decide) rfl, device]
    decide
  · rw [opened.partial_write (by decide) (by decide)]
    decide

end SpiRing

end KinuxKernel
