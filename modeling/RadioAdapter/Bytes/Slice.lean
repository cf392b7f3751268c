import RadioAdapter.Bytes.Word

/-! # Slices of buffers

A part of a buffer is named by where it begins and where it ends, and one part is copied over
another. Neither is possible with just any bounds: the part has to lie within its buffer, and what
is copied has to be as long as what it is copied over. A guarded computation keeps to this, or it
stops at the first access that does not.
-/

namespace RadioAdapter

/-- An access to a buffer, by its bounds. -/
inductive Access where
  /-- The part from `first` up to `last` of a buffer. -/
  | slice (first last length : Nat)
  /-- A copy between two parts of buffers. -/
  | copy (target source : Nat)
deriving DecidableEq, Repr

/-- A computation that checks each of its accesses. It stops at the first one that is out of
bounds. -/
abbrev Guarded (α : Type) := Except Access α

namespace Bytes

/-- The part from `first` up to `last`. -/
def slice (data : Bytes) (first last : Nat) : Guarded Bytes :=
  if first ≤ last ∧ last ≤ data.length then .ok ((data.drop first).take (last - first))
  else .error (.slice first last data.length)

/-- Copy bytes over the part from `first` up to `last`. -/
def overwrite (data : Bytes) (first last : Nat) (source : Bytes) : Guarded Bytes := do
  let target ← data.slice first last
  if target.length = source.length then return data.take first ++ (source ++ data.drop last)
  else throw (.copy target.length source.length)

/-- The word that four bytes are copied into. -/
def word : Bytes → Guarded UInt32
  | [b0, b1, b2, b3] => .ok (Word.ofBytes b0 b1 b2 b3)
  | source => .error (.copy 4 source.length)

/-- The word that starts at `offset`. -/
def wordAt (data : Bytes) (offset : Nat) : Guarded UInt32 := do
  (← data.slice offset (offset + 4)).word

/-- The signed word that starts at `offset`. -/
def signedAt (data : Bytes) (offset : Nat) : Guarded Int32 := do
  return (← data.wordAt offset).toInt32

/-! ## Accesses in bounds -/

section

variable {data front source : Bytes} {first last offset size : Nat}

theorem slice_of_le (hfirst : first ≤ last) (hlast : last ≤ data.length) :
    data.slice first last = .ok ((data.drop first).take (last - first)) :=
  if_pos ⟨hfirst, hlast⟩

/-- A beginning that goes no further than the buffer. -/
theorem slice_zero_of_le (hlast : last ≤ data.length) :
    data.slice 0 last = .ok (data.take last) := by
  rw [slice_of_le (Nat.zero_le last) hlast, List.drop_zero, Nat.sub_zero]

theorem length_slice (hfirst : first ≤ last) (hlast : last ≤ data.length) :
    ((data.drop first).take (last - first)).length = last - first := by
  rw [List.length_take, List.length_drop]
  omega

theorem overwrite_of_le (hfirst : first ≤ last) (hlast : last ≤ data.length)
    (hsource : source.length = last - first) :
    data.overwrite first last source = .ok (data.take first ++ (source ++ data.drop last)) := by
  rw [overwrite, slice_of_le hfirst hlast]
  exact if_pos ((length_slice hfirst hlast).trans hsource.symm)

-- The bounds are checked, not cut down to what there is.
example : slice [1, 2, 3] 2 4 = .error (.slice 2 4 3) := rfl

/-- A buffer of a given size that begins with some bytes and has zeros behind them. -/
def zeroFilled (size : Nat) (front : Bytes) : Bytes :=
  front ++ List.replicate (size - front.length) 0

theorem zeroFilled_nil (size : Nat) : zeroFilled size [] = List.replicate size 0 := rfl

theorem zeroFilled_of_length (hlength : front.length = size) : zeroFilled size front = front := by
  rw [zeroFilled, hlength, Nat.sub_self, List.replicate_zero, List.append_nil]

/-- Bytes that are copied to where the zeros begin continue what stands before. -/
theorem overwrite_zeroFilled (hfirst : front.length = first) (hlast : first + source.length = last)
    (hfits : last ≤ size) :
    (zeroFilled size front).overwrite first last source =
      .ok (zeroFilled size (front ++ source)) := by
  subst hfirst hlast
  have hlength : (zeroFilled size front).length = size := by
    rw [zeroFilled, List.length_append, List.length_replicate]
    omega
  have htake : (zeroFilled size front).take front.length = front := List.take_left
  have hdrop : (zeroFilled size front).drop (front.length + source.length) =
      List.replicate (size - (front.length + source.length)) 0 := by
    rw [← List.drop_drop, zeroFilled, List.drop_left, List.drop_replicate, Nat.sub_sub]
  rw [overwrite_of_le (Nat.le_add_right _ _) (by omega) (by omega), htake, hdrop, zeroFilled,
    List.length_append, List.append_assoc]

/-- The next part is written to where the parts before it end. -/
theorem overwrite_part (size : Nat) {width : Nat} (hfront : front.length = first)
    (hwidth : source.length = width) (hfits : first + width ≤ size) :
    (zeroFilled size front).overwrite first (first + width) source =
        .ok (zeroFilled size (front ++ source)) ∧
      (front ++ source).length = first + width := by
  refine ⟨overwrite_zeroFilled hfront (by rw [hwidth]) hfits, ?_⟩
  rw [List.length_append, hfront, hwidth]

theorem word_bytes (value : UInt32) : word (Word.bytes value) = .ok value :=
  congrArg Except.ok (Word.ofBytes_bytes value)

/-- A word that lies within its buffer is read without leaving it. -/
theorem wordAt_of_le (hlast : offset + 4 ≤ data.length) :
    data.wordAt offset = .ok (Word.startingAt data offset) := by
  have hfour : offset + 4 - offset = 4 := by omega
  rw [wordAt, slice_of_le (Nat.le_add_right _ _) hlast, hfour, ← Word.bytes_startingAt hlast]
  exact word_bytes _

theorem signedAt_of_le (hlast : offset + 4 ≤ data.length) :
    data.signedAt offset = .ok (Word.signedAt data offset) := by
  rw [signedAt, wordAt_of_le hlast]
  rfl

end

end Bytes

end RadioAdapter
