import Postings.Input.Stream
import Postings.Outcome

/-!
# Stored frames

A Zstandard file is a sequence of frames.  This file reads the frames whose
blocks are stored as they are or as one repeated byte: single-segment frames
that announce their content size in four bytes and carry no checksum.
Skippable frames are passed over.  The contents of the frames follow one
another.

Entropy-coded blocks are not read.  Numbers are little-endian.

This reader serves the entry point only.  Loading takes any decoder, and no
theorem is about this one.
-/

namespace Postings

namespace Frame

/-- The number written by the given bytes, the lowest byte first. -/
def littleEndian (bytes : List UInt8) : Nat :=
  bytes.foldr (fun byte higher => byte.toNat + 256 * higher) 0

/-- The first bytes of a frame with content. -/
def magic : List UInt8 := [0x28, 0xB5, 0x2F, 0xFD]

/-- The first bytes of a skippable frame, of which the lower half of the
first byte is free. -/
def skippableMagic : List UInt8 := [0x50, 0x2A, 0x4D, 0x18]

/-- The header byte of a single-segment frame with a content size of four
bytes and neither checksum nor dictionary. -/
def storedDescriptor : UInt8 := 0xA0

/-- Whether the bytes begin like the pattern, as far as both go. -/
def agrees (pattern bytes : List UInt8) : Bool :=
  (pattern.zip bytes).all fun (wanted, byte) => wanted == byte

/-- Forget the free half of the first byte. -/
def clearFree : List UInt8 → List UInt8
  | [] => []
  | first :: rest => (first &&& 0xF0) :: rest

def startsFrame (bytes : List UInt8) : Bool :=
  agrees magic bytes

def startsSkippable (bytes : List UInt8) : Bool :=
  agrees skippableMagic (clearFree bytes)

/-- The first bytes and the bytes behind them, if there are so many. -/
def take? (count : Nat) (bytes : List UInt8) :
    Except ReadError (List UInt8 × List UInt8) :=
  if count ≤ bytes.length then
    .ok (bytes.take count, bytes.drop count)
  else
    .error .incompleteFrame

theorem length_of_take? {count : Nat} {bytes taken rest : List UInt8}
    (enough : take? count bytes = .ok (taken, rest)) :
    taken.length = count ∧ rest.length + count = bytes.length := by
  unfold take? at enough
  split at enough
  · rename_i fits
    cases enough
    simp only [List.length_take, List.length_drop]
    omega
  · cases enough

/-- A block: its content, whether it is the last one of its frame, and the
bytes behind it. -/
structure Block where
  content : List UInt8
  isLast : Bool
  rest : List UInt8

/-- Read one block.  Its header has three bytes: a mark for the last block,
two bits for the kind, and the size. -/
def block (bytes : List UInt8) : Except ReadError Block := do
  let (header, body) ← take? 3 bytes
  let number := littleEndian header
  let size := number / 8
  match number / 2 % 4 with
  | 0 =>
      let (content, rest) ← take? size body
      return { content, isLast := number % 2 == 1, rest }
  | 1 =>
      let (run, rest) ← take? 1 body
      return {
        content := run.flatMap (List.replicate size)
        isLast := number % 2 == 1
        rest }
  | _ => throw .corruptFrame

theorem length_rest_lt_of_block {bytes : List UInt8} {read : Block}
    (succeeded : block bytes = .ok read) :
    read.rest.length < bytes.length := by
  obtain ⟨⟨header, body⟩, headed, continued⟩ :=
    Outcome.bind_eq_ok.mp succeeded
  have bodyLength := (length_of_take? headed).2
  dsimp only at continued
  split at continued
  · obtain ⟨⟨content, rest⟩, stored, finished⟩ :=
      Outcome.bind_eq_ok.mp continued
    have restLength := (length_of_take? stored).2
    cases finished
    change rest.length < bytes.length
    omega
  · obtain ⟨⟨run, rest⟩, repeated, finished⟩ :=
      Outcome.bind_eq_ok.mp continued
    have restLength := (length_of_take? repeated).2
    cases finished
    change rest.length < bytes.length
    omega
  · cases continued

/-- The content of the blocks up to the last one of the frame, and the bytes
behind the frame. -/
def blocks (bytes : List UInt8) :
    Except ReadError (List UInt8 × List UInt8) :=
  match _ : block bytes with
  | .error cause => .error cause
  | .ok read =>
      if read.isLast then
        .ok (read.content, read.rest)
      else
        (blocks read.rest).map fun (content, rest) =>
          (read.content ++ content, rest)
termination_by bytes.length
decreasing_by exact length_rest_lt_of_block ‹_›

theorem length_rest_lt_of_blocks {bytes content rest : List UInt8}
    (succeeded : blocks bytes = .ok (content, rest)) :
    rest.length < bytes.length := by
  induction bytes using blocks.induct generalizing content with
  | case1 bytes cause failed =>
      rw [blocks] at succeeded
      split at succeeded
      · cases succeeded
      · simp_all
  | case2 bytes read blockRead last =>
      have shorter := length_rest_lt_of_block blockRead
      rw [blocks] at succeeded
      split at succeeded
      · cases succeeded
      · simp_all
  | case3 bytes read blockRead notLast ih =>
      have shorter := length_rest_lt_of_block blockRead
      rw [blocks] at succeeded
      split at succeeded
      · cases succeeded
      · rename_i sameRead sameBlock
        obtain rfl : read = sameRead :=
          Except.ok.inj (blockRead.symm.trans sameBlock)
        rw [if_neg notLast] at succeeded
        cases following : blocks read.rest with
        | error cause =>
            rw [following] at succeeded
            cases succeeded
        | ok parts =>
            obtain ⟨later, behind⟩ := parts
            rw [following] at succeeded
            cases succeeded
            exact Nat.lt_trans (ih following) shorter

/-- The content of the first frame and the bytes behind it. -/
def first (bytes : List UInt8) :
    Except ReadError (List UInt8 × List UInt8) := do
  if bytes.isEmpty then
    throw .incompleteFrame
  else if startsFrame bytes then
    let (_, described) ← take? 4 bytes
    let (descriptor, sized) ← take? 1 described
    if descriptor = [storedDescriptor] then
      let (size, body) ← take? 4 sized
      let (content, rest) ← blocks body
      if content.length = littleEndian size then
        return (content, rest)
      else
        throw .corruptFrame
    else
      throw .corruptFrame
  else if startsSkippable bytes then
    let (_, sized) ← take? 4 bytes
    let (size, body) ← take? 4 sized
    let (_, rest) ← take? (littleEndian size) body
    return ([], rest)
  else
    throw .unknownFrame

theorem length_rest_lt_of_first {bytes content rest : List UInt8}
    (succeeded : first bytes = .ok (content, rest)) :
    rest.length < bytes.length := by
  unfold first at succeeded
  split at succeeded
  · cases succeeded
  · split at succeeded
    · obtain ⟨⟨_, described⟩, marked, succeeded⟩ :=
        Outcome.bind_eq_ok.mp succeeded
      obtain ⟨⟨descriptor, sized⟩, headed, succeeded⟩ :=
        Outcome.bind_eq_ok.mp succeeded
      have describedLength := (length_of_take? marked).2
      have sizedLength := (length_of_take? headed).2
      dsimp only at succeeded
      split at succeeded
      · obtain ⟨⟨size, body⟩, measured, succeeded⟩ :=
          Outcome.bind_eq_ok.mp succeeded
        obtain ⟨⟨filled, behind⟩, blocksRead, succeeded⟩ :=
          Outcome.bind_eq_ok.mp succeeded
        have bodyLength := (length_of_take? measured).2
        have behindLength : behind.length < body.length :=
          length_rest_lt_of_blocks blocksRead
        dsimp only at succeeded
        split at succeeded
        · cases succeeded
          omega
        · cases succeeded
      · cases succeeded
    · split at succeeded
      · obtain ⟨⟨_, sized⟩, marked, succeeded⟩ :=
          Outcome.bind_eq_ok.mp succeeded
        obtain ⟨⟨size, body⟩, measured, succeeded⟩ :=
          Outcome.bind_eq_ok.mp succeeded
        obtain ⟨⟨_, behind⟩, skipped, succeeded⟩ :=
          Outcome.bind_eq_ok.mp succeeded
        have sizedLength := (length_of_take? marked).2
        have bodyLength := (length_of_take? measured).2
        have behindLength := (length_of_take? skipped).2
        cases succeeded
        omega
      · cases succeeded

/-- The reads of a file of frames.  A file holds at least one frame, and a
broken frame ends the file with a failure. -/
def reads (bytes : List UInt8) : Stream :=
  match _ : first bytes with
  | .error cause => [.failure cause]
  | .ok (content, rest) =>
      if rest.isEmpty then
        [.data content]
      else
        .data content :: reads rest
termination_by bytes.length
decreasing_by exact length_rest_lt_of_first ‹_›

end Frame

end Postings
