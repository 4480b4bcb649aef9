import FrameTap.Bitmap
import FrameTap.Header.Codec
import FrameTap.Proofs.Slices

set_option autoImplicit false

namespace FrameTap

namespace Bytes

theorem slice_slice {bytes : Bytes} {offset length start count : Nat}
    (within : start + count ≤ length) :
    (bytes.slice offset length).slice start count = bytes.slice (offset + start) count := by
  apply List.ext_getElem?
  intro index
  rw [getElem?_slice, getElem?_slice, getElem?_slice, Nat.add_assoc]
  by_cases inside : index < count
  · rw [if_pos inside, if_pos inside, if_pos (by omega)]
  · rw [if_neg inside, if_neg inside]

theorem slice_drop (bytes : Bytes) (front offset length : Nat) :
    slice (bytes.drop front) offset length = bytes.slice (front + offset) length := by
  rw [slice, slice, List.drop_drop]

def range? (bytes : Bytes) (start stop : Nat) : Option Bytes :=
  if start ≤ stop ∧ stop ≤ bytes.length then some (bytes.slice start (stop - start)) else none

theorem range?_of_inside {bytes : Bytes} {offset length : Nat}
    (inside : offset + length ≤ bytes.length) :
    bytes.range? offset (offset + length) = some (bytes.slice offset length) := by
  rw [range?, if_pos ⟨Nat.le_add_right _ _, inside⟩, Nat.add_sub_cancel_left]

end Bytes

namespace Bitmap

-- A pixel of a row is four of its bytes, and no other pixel looks at them.
theorem exists_pixel {row : Bytes} (long : 4 ≤ row.length) :
    ∃ blue green red alpha rest, row = blue :: green :: red :: alpha :: rest := by
  rcases row with _ | ⟨blue, _ | ⟨green, _ | ⟨red, _ | ⟨alpha, rest⟩⟩⟩⟩
  iterate 4 simp at long
  exact ⟨blue, green, red, alpha, rest, rfl⟩

theorem swizzle_slice {row : Bytes} {x : Nat} (inside : 4 * x + 4 ≤ row.length) :
    (swizzle row).slice (4 * x) 4 = swizzle (row.slice (4 * x) 4) := by
  induction x generalizing row with
  | zero =>
    obtain ⟨blue, green, red, alpha, rest, rfl⟩ := exists_pixel inside
    simp [Bytes.slice, swizzle]
  | succ x ih =>
    have long : 4 ≤ row.length := by omega
    obtain ⟨blue, green, red, alpha, rest, rfl⟩ := exists_pixel long
    have later : 4 * x + 4 ≤ rest.length := by
      simp only [List.length_cons] at inside
      omega
    rw [swizzle]
    exact ih later

theorem swizzle_pixel {data : Bytes} {offset : Nat} (inside : offset + 4 ≤ data.length) :
    (swizzle (data.slice offset 4)).map some =
      [data[offset + 2]?, data[offset + 1]?, data[offset]?, data[offset + 3]?] := by
  have place (k : Nat) (within : k < 4) : (data.slice offset 4)[k]? = data[offset + k]? := by
    rw [Bytes.getElem?_slice, if_pos within]
  rw [← place 2 (by decide), ← place 1 (by decide), ← place 3 (by decide),
    ← Nat.add_zero offset, ← place 0 (by decide)]
  have four := Bytes.length_slice inside
  match data.slice offset 4, four with
  | [blue, green, red, alpha], _ => rfl

theorem swizzle_length {row : Bytes} {width : Nat} (whole : row.length = 4 * width) :
    (swizzle row).length = 4 * width := by
  induction width generalizing row with
  | zero =>
    rw [List.length_eq_zero_iff.mp whole]
    rfl
  | succ width ih => match row, whole with
    | blue :: green :: red :: alpha :: rest, whole =>
      have later : rest.length = 4 * width := by
        simp only [List.length_cons] at whole
        omega
      simp [swizzle, ih later, Nat.mul_succ]

section Rows

variable {width stride height : Nat} {data : Bytes}

theorem first_row (inside : 4 * width ≤ data.length) :
    (swizzle (data.take (4 * width))).length = 4 * width :=
  swizzle_length (by rw [List.length_take, Nat.min_eq_left inside])

def RowsInside (width stride height : Nat) (data : Bytes) : Prop :=
  ∀ y < height, y * stride + 4 * width ≤ data.length

-- It is enough that the last does.
theorem rowsInside_of_last (inside : stride * (height - 1) + 4 * width ≤ data.length) :
    RowsInside width stride height data := by
  intro y row
  have above : y * stride ≤ stride * (height - 1) := by
    rw [Nat.mul_comm]
    exact Nat.mul_le_mul_left stride (by omega)
  omega

theorem RowsInside.first (inside : RowsInside width stride (height + 1) data) :
    4 * width ≤ data.length := by
  have row := inside 0 (Nat.succ_pos _)
  omega

theorem RowsInside.drop (inside : RowsInside width stride (height + 1) data) :
    RowsInside width stride height (data.drop stride) := by
  intro y row
  have next := inside (y + 1) (by omega)
  rw [Nat.succ_mul] at next
  rw [List.length_drop]
  omega

theorem gatherRows_length (inside : RowsInside width stride height data) :
    (gatherRows (4 * width) stride height data).length = 4 * width * height := by
  induction height generalizing data with
  | zero => rfl
  | succ height ih =>
    rw [gatherRows, List.length_append, first_row inside.first, ih inside.drop, Nat.mul_succ,
      Nat.add_comm]

theorem gatherRows_row (inside : RowsInside width stride height data) {y : Nat}
    (row : y < height) :
    (gatherRows (4 * width) stride height data).slice (4 * width * y) (4 * width) =
      swizzle (data.slice (y * stride) (4 * width)) := by
  induction height generalizing data y with
  | zero => exact absurd row (Nat.not_lt_zero y)
  | succ height ih =>
    have first := first_row inside.first
    cases y with
    | zero =>
      rw [gatherRows, Nat.mul_zero, Nat.zero_mul, Bytes.slice, Bytes.slice, List.drop_zero,
        List.drop_zero, List.take_left' first]
    | succ y =>
      have skipped := Bytes.slice_append_after (swizzle (data.take (4 * width)))
        (gatherRows (4 * width) stride height (data.drop stride)) (4 * width * y) (4 * width)
      rw [first] at skipped
      rw [gatherRows, Nat.mul_succ, Nat.add_comm _ (4 * width), skipped,
        ih inside.drop (by omega), Bytes.slice_drop, Nat.add_comm stride, ← Nat.succ_mul]

end Rows

section Verdict

variable {frame : Frame}

def Holds (frame : Frame) : Prop :=
  4 * frame.width.toNat ≤ frame.stride.toNat ∧
    frame.stride.toNat * (frame.height.toNat - 1) + 4 * frame.width.toNat ≤ frame.data.length

theorem Holds.rows (holds : Holds frame) :
    RowsInside frame.width.toNat frame.stride.toNat frame.height.toNat frame.data :=
  rowsInside_of_last holds.2

theorem fits_eq_true_iff : fits (frame.width.toNat * 4) frame.stride.toNat frame.height.toNat
    frame.data.length = true ↔ Holds frame := by
  rw [fits, decide_eq_true_iff, Nat.mul_comm, Holds]

def pixelsOf (frame : Frame) : Bytes :=
  gatherRows (4 * frame.width.toNat) frame.stride.toNat frame.height.toNat frame.data

theorem length_pixelsOf (holds : Holds frame) :
    (pixelsOf frame).length = 4 * frame.width.toNat * frame.height.toNat :=
  gatherRows_length holds.rows

-- No row is longer than the part of the data that it comes from.
theorem room_le_data (holds : Holds frame) :
    4 * frame.width.toNat * frame.height.toNat ≤ frame.data.length := by
  cases rows : frame.height.toNat with
  | zero => exact Nat.zero_le _
  | succ height =>
    have last := holds.2
    have above : 4 * frame.width.toNat * height ≤ frame.stride.toNat * height :=
      Nat.mul_le_mul_right _ holds.1
    rw [rows, Nat.add_sub_cancel] at last
    rw [Nat.mul_succ]
    omega

-- Where rows have no pixels, not gathering them makes no difference.
theorem gathered_eq (holds : Holds frame) :
    (if frame.width.toNat = 0 then []
      else gatherRows (frame.width.toNat * 4) frame.stride.toNat frame.height.toNat frame.data) =
      pixelsOf frame := by
  split
  next empty =>
    have nothing : (pixelsOf frame).length = 0 := by simp [length_pixelsOf holds, empty]
    exact (List.length_eq_zero_iff.mp nothing).symm
  next => rw [Nat.mul_comm, pixelsOf]

theorem ofPixels?_pixelsOf (holds : Holds frame) :
    ofPixels? frame.width.toNat frame.height.toNat (pixelsOf frame) =
      some ⟨frame.width.toNat, frame.height.toNat, pixelsOf frame⟩ :=
  if_pos (Nat.le_of_eq (length_pixelsOf holds).symm)

theorem ofFrame_of_other (other : frame.format ≠ .bgra32) :
    ofFrame frame = .error (.readFailure (.unsupportedFormat frame.format)) := by
  rw [ofFrame]
  cases format : frame.format with
  | bgra32 => exact absurd format other
  | other tag => rfl

theorem ofFrame_of_short (format : frame.format = .bgra32) (short : ¬Holds frame) :
    ofFrame frame = .error (.readFailure (.frameTooShort frame.width.toNat frame.height.toNat
      frame.stride.toNat frame.data.length)) := by
  rw [ofFrame, format]
  exact if_neg (mt fits_eq_true_iff.mp short)

theorem ofFrame_of_holds (format : frame.format = .bgra32) (holds : Holds frame) :
    ofFrame frame = .ok ⟨frame.width.toNat, frame.height.toNat, pixelsOf frame⟩ := by
  rw [ofFrame, format]
  dsimp only [PixelFormat.bytesPerPixel]
  rw [if_pos (fits_eq_true_iff.mpr holds), gathered_eq holds, ofPixels?_pixelsOf holds]

end Verdict

section Addresses

variable {frame : Frame}

def word? (n : Nat) : Option Nat := if n < addressSpace then some n else none

theorem word?_bind {α : Type} {n : Nat} (small : n < addressSpace) (rest : Nat → Option α) :
    (word? n >>= rest) = rest n := by
  rw [word?, if_pos small]
  rfl

def gatherPlaced (rowLength stride : Nat) (data : Bytes) : Nat → Nat → Option Bytes
  | 0, _ => some []
  | left + 1, y => do
    let start ← word? (y * stride)
    let stop ← word? (start + rowLength)
    let row ← data.range? start stop
    let rest ← gatherPlaced rowLength stride data left (y + 1)
    return swizzle row ++ rest

/-- The bitmap of a frame with every number checked to be one of 64 bits and every row to lie in
the data: `none` where one does not. -/
def ofFrameChecked (frame : Frame) : Option (Except Error Bitmap) :=
  let width := frame.width.toNat
  let height := frame.height.toNat
  let stride := frame.stride.toNat
  let tooShort := Error.readFailure (.frameTooShort width height stride frame.data.length)
  match frame.format.bytesPerPixel with
  | none => return .error (.readFailure (.unsupportedFormat frame.format))
  | some bytesPerPixel => do
    let rowLength ← word? (width * bytesPerPixel)
    if stride < rowLength then
      return .error tooShort
    else
      let above ← word? (stride * (height - 1))
      let needed ← word? (above + rowLength)
      if frame.data.length < needed then
        return .error tooShort
      else
        let _room ← word? (rowLength * height)
        let pixels ← gatherPlaced rowLength stride frame.data height 0
        match ofPixels? width height pixels with
        | some bitmap => return .ok bitmap
        | none => return .error (.readFailure .bitmapSize)

theorem rowLength_addressable : frame.width.toNat * 4 < addressSpace := by
  have narrow := frame.width.toNat_lt
  rw [addressSpace, UInt64.size]
  omega

theorem area_addressable : frame.height.toNat * frame.stride.toNat < addressSpace :=
  Nat.lt_of_le_of_lt
    (Nat.mul_le_mul (Nat.le_of_lt_succ frame.height.toNat_lt)
      (Nat.le_of_lt_succ frame.stride.toNat_lt))
    (by decide)

section Long

-- A row is not longer than the stride: so much is known before the rows are added up.
variable (long : 4 * frame.width.toNat ≤ frame.stride.toNat)

include long

theorem row_addressable {y : Nat} (row : y < frame.height.toNat) :
    y * frame.stride.toNat + 4 * frame.width.toNat < addressSpace := by
  have rows : (y + 1) * frame.stride.toNat ≤ frame.height.toNat * frame.stride.toNat :=
    Nat.mul_le_mul_right _ row
  have area := @area_addressable frame
  rw [Nat.succ_mul] at rows
  omega

theorem last_addressable :
    frame.stride.toNat * (frame.height.toNat - 1) + 4 * frame.width.toNat < addressSpace := by
  cases rows : frame.height.toNat with
  | zero =>
    have small := @rowLength_addressable frame
    rw [Nat.mul_zero]
    omega
  | succ height =>
    have last := row_addressable long (y := height) (by omega)
    rwa [Nat.add_sub_cancel, Nat.mul_comm]

theorem room_addressable : 4 * frame.width.toNat * frame.height.toNat < addressSpace := by
  have room : frame.height.toNat * (4 * frame.width.toNat) ≤
      frame.height.toNat * frame.stride.toNat := Nat.mul_le_mul_left _ long
  rw [Nat.mul_comm]
  exact Nat.lt_of_le_of_lt room area_addressable

end Long

theorem gatherPlaced_eq {width stride left y : Nat} {data : Bytes}
    (inside : ∀ row < y + left, row * stride + 4 * width ≤ data.length)
    (addressable : ∀ row < y + left, row * stride + 4 * width < addressSpace) :
    gatherPlaced (4 * width) stride data left y =
      some (gatherRows (4 * width) stride left (data.drop (y * stride))) := by
  induction left generalizing y with
  | zero => rfl
  | succ left ih =>
    have stop := addressable y (by omega)
    have start : y * stride < addressSpace := by omega
    have later := ih (y := y + 1) (fun row below => inside row (by omega))
      (fun row below => addressable row (by omega))
    rw [gatherPlaced, word?_bind start, word?_bind stop,
      Bytes.range?_of_inside (inside y (by omega)), later, gatherRows, List.drop_drop,
      ← Nat.succ_mul]
    rfl

-- Neither the numbers nor the places of the rows are ever refused.
theorem ofFrameChecked_eq (frame : Frame) : ofFrameChecked frame = some (ofFrame frame) := by
  cases format : frame.format with
  | other tag =>
    rw [ofFrame_of_other (by simp [format]), ofFrameChecked, format]
    rfl
  | bgra32 =>
    rw [ofFrameChecked, format]
    dsimp only [PixelFormat.bytesPerPixel]
    rw [word?_bind rowLength_addressable, Nat.mul_comm]
    by_cases wide : frame.stride.toNat < 4 * frame.width.toNat
    · rw [if_pos wide, ofFrame_of_short format fun holds => Nat.not_le_of_lt wide holds.1]
      rfl
    have long := Nat.le_of_not_lt wide
    have last := last_addressable long
    have above : frame.stride.toNat * (frame.height.toNat - 1) < addressSpace := by omega
    rw [if_neg wide, word?_bind above, word?_bind last]
    by_cases short : frame.data.length <
        frame.stride.toNat * (frame.height.toNat - 1) + 4 * frame.width.toNat
    · rw [if_pos short, ofFrame_of_short format fun holds => Nat.not_le_of_lt short holds.2]
      rfl
    have holds : Holds frame := ⟨long, Nat.le_of_not_lt short⟩
    have inside : ∀ row < 0 + frame.height.toNat,
        row * frame.stride.toNat + 4 * frame.width.toNat ≤ frame.data.length :=
      fun row below => holds.rows row (by omega)
    have gathered := gatherPlaced_eq inside fun row below => row_addressable long (by omega)
    rw [Nat.zero_mul, List.drop_zero] at gathered
    rw [if_neg short, word?_bind (room_addressable long), gathered, ← pixelsOf,
      ofFrame_of_holds format holds, Option.bind_eq_bind, Option.bind_some,
      ofPixels?_pixelsOf holds]
    rfl

end Addresses

def pixelAt (bitmap : Bitmap) (x y : Nat) : Bytes :=
  bitmap.pixels.slice (4 * (y * bitmap.width + x)) 4

theorem pixelAt_of_holds {frame : Frame} (holds : Holds frame) {x y : Nat}
    (column : x < frame.width.toNat) (row : y < frame.height.toNat) :
    let place := y * frame.stride.toNat + 4 * x
    (pixelAt ⟨frame.width.toNat, frame.height.toNat, pixelsOf frame⟩ x y).map some =
      [frame.data[place + 2]?, frame.data[place + 1]?, frame.data[place]?,
        frame.data[place + 3]?] := by
  intro place
  have inside := holds.rows y row
  have whole : (frame.data.slice (y * frame.stride.toNat) (4 * frame.width.toNat)).length =
      4 * frame.width.toNat := Bytes.length_slice inside
  have offset : 4 * (y * frame.width.toNat + x) = 4 * frame.width.toNat * y + 4 * x := by
    rw [Nat.mul_add, Nat.mul_comm y, Nat.mul_assoc]
  have pixel : pixelAt ⟨frame.width.toNat, frame.height.toNat, pixelsOf frame⟩ x y =
      swizzle (frame.data.slice place 4) := by
    calc (pixelsOf frame).slice (4 * (y * frame.width.toNat + x)) 4
        = ((pixelsOf frame).slice (4 * frame.width.toNat * y) (4 * frame.width.toNat)).slice
            (4 * x) 4 := by rw [offset, Bytes.slice_slice (by omega)]
      _ = (swizzle (frame.data.slice (y * frame.stride.toNat) (4 * frame.width.toNat))).slice
            (4 * x) 4 := by rw [pixelsOf, gatherRows_row holds.rows row]
      _ = swizzle (frame.data.slice place 4) := by
        rw [swizzle_slice (by omega), Bytes.slice_slice (by omega)]
  rw [pixel, swizzle_pixel (by omega)]

theorem ofFrame_eq_ok_iff {frame : Frame} {bitmap : Bitmap} :
    ofFrame frame = .ok bitmap ↔ frame.format = .bgra32 ∧ Holds frame ∧
      bitmap = ⟨frame.width.toNat, frame.height.toNat, pixelsOf frame⟩ := by
  by_cases format : frame.format = .bgra32
  · by_cases holds : Holds frame
    · rw [ofFrame_of_holds format holds, Except.ok.injEq, eq_comm]
      exact ⟨fun same => ⟨format, holds, same⟩, fun all => all.2.2⟩
    · rw [ofFrame_of_short format holds]
      exact ⟨nofun, fun all => absurd all.2.1 holds⟩
  · rw [ofFrame_of_other format]
    exact ⟨nofun, fun all => absurd all.1 format⟩

/-- A frame has a bitmap exactly if its pixels are of the known format and its data holds its rows.
It is never found to be too small, and on the way no number leaves 64 bits. -/
theorem ofFrame_exact (frame : Frame) :
    let width := frame.width.toNat
    let height := frame.height.toNat
    let stride := frame.stride.toNat
    ((∃ bitmap, ofFrame frame = .ok bitmap) ↔
      frame.format = .bgra32 ∧ 4 * width ≤ stride ∧
        stride * (height - 1) + 4 * width ≤ frame.data.length) ∧
    (∀ bitmap, ofFrame frame = .ok bitmap →
      bitmap.width = width ∧ bitmap.height = height ∧
      bitmap.pixels.length = 4 * width * height ∧
      4 * width * height ≤ frame.data.length ∧
      ∀ x < width, ∀ y < height,
        let place := y * stride + 4 * x
        (bitmap.pixelAt x y).map some =
          [frame.data[place + 2]?, frame.data[place + 1]?, frame.data[place]?,
            frame.data[place + 3]?]) ∧
    ofFrameChecked frame = some (ofFrame frame) ∧
    ofFrame frame ≠ .error (.readFailure .bitmapSize) := by
  intro width height stride
  refine ⟨⟨?_, ?_⟩, ?_, ofFrameChecked_eq frame, ?_⟩
  · rintro ⟨bitmap, made⟩
    obtain ⟨format, holds, -⟩ := ofFrame_eq_ok_iff.mp made
    exact ⟨format, holds⟩
  · rintro ⟨format, holds⟩
    exact ⟨_, ofFrame_of_holds format holds⟩
  · intro bitmap made
    obtain ⟨format, holds, rfl⟩ := ofFrame_eq_ok_iff.mp made
    refine ⟨rfl, rfl, length_pixelsOf holds, room_le_data holds, fun x column y row => ?_⟩
    exact pixelAt_of_holds holds column row
  · intro mismatched
    by_cases format : frame.format = .bgra32
    · by_cases holds : Holds frame
      · cases mismatched.symm.trans (ofFrame_of_holds format holds)
      · cases mismatched.symm.trans (ofFrame_of_short format holds)
    · cases mismatched.symm.trans (ofFrame_of_other format)

-- Two rows of one pixel and padding behind the first.
example : ofFrame
    { data := [1, 2, 3, 4, 0, 0, 0, 0, 5, 6, 7, 8], frameNumber := 1, width := 1, height := 2
      stride := 8, format := .bgra32, timestampMs := 0, slot := none } =
      .ok ⟨1, 2, [3, 2, 1, 4, 7, 6, 5, 8]⟩ := by
  rfl

end Bitmap

end FrameTap
