import Mathlib.Tactic.Linarith
import Mathlib.Tactic.Ring

/-!
# From a `cv::Mat` to a video frame

`AMediaTrackHandler::SendFrame` hands the bytes of a `cv::Mat` to libyuv, which reads them as an image with three
bytes for a pixel.  Nothing on the way asks how many channels the `Mat` has, and the step from row to row is narrowed
to an `int`.

Offsets are in bytes from `data`, and may be negative.
-/

namespace MosaicCore

/-! ## Frames -/

/-- The header of a `cv::Mat` with 8-bit channels. -/
structure MatHeader where
  rows : Int
  cols : Int
  channels : Int
  /-- `step[0]`, the bytes from one row to the next. -/
  step : Int
  /-- The bytes of the buffer from `data` on. -/
  size : Int
  deriving DecidableEq

/-- The offset is one of the bytes of a pixel. -/
def MatHeader.IsByteOf (m : MatHeader) (x y offset : Int) : Prop :=
  y * m.step + x * m.channels ≤ offset ∧ offset < y * m.step + (x + 1) * m.channels

/-- A `cv::Mat` that is not empty, in a buffer that holds it. -/
structure Mat extends MatHeader where
  rows_pos : 0 < rows
  rows_int : rows < 2 ^ 31
  cols_pos : 0 < cols
  cols_int : cols < 2 ^ 31
  channels_pos : 0 < channels
  /-- `CV_CN_MAX`. -/
  channels_max : channels ≤ 512
  step_fits : cols * channels ≤ step
  step_size : step < 2 ^ 64
  size_fits : (rows - 1) * step + cols * channels ≤ size

/-- The conversion to `int`. -/
def toInt32 (value : Int) : Int := value.bmod (2 ^ 32)

/-- The image that `libyuv::RGB24ToI420` is called with. -/
structure Rgb24Image where
  stride : Int
  width : Int
  height : Int

/-- Where libyuv reads the bytes of a pixel, `i` from 0 to 2. -/
def Rgb24Image.offset (image : Rgb24Image) (x y i : Int) : Int := y * image.stride + 3 * x + i

/-- `CvMat2VideoFrame`. -/
def cvMat2VideoFrame (frame : MatHeader) : Rgb24Image where
  stride := toInt32 frame.step
  width := frame.cols
  height := frame.rows

/-- `Impl::SendFrame`: without a track source nothing is converted. -/
def AMediaTrackHandler.Impl.sendFrame (hasSource : Bool) (frame : MatHeader) : Option Rgb24Image :=
  if hasSource then some (cvMat2VideoFrame frame) else none

/-! ## Frames from Python -/

/-- The channels of `CV_8UC(n)`. -/
def cvChannels (n : Int) : Int := (n - 1) % 512 + 1

/-- `cv::Mat(rows, cols, type, data)` over a buffer, without a step of its own. -/
def MatHeader.over (rows cols channels size : Int) : MatHeader where
  rows := rows
  cols := cols
  channels := channels
  step := cols * channels
  size := size

/-- `numpy_to_mat` of an array of bytes in row order. -/
def numpyToMat (shape : List Nat) : Except String MatHeader :=
  match shape with
  | [n] => .ok (.over 1 (toInt32 n) 1 n)
  | [h, w] => .ok (.over (toInt32 h) (toInt32 w) 1 (h * w))
  | [h, w, c] => .ok (.over (toInt32 h) (toInt32 w) (cvChannels c) (h * w * c))
  | _ => .error "NumPy array dimensions must be 1, 2, or 3."

theorem toInt32_of_lt {value : Int} (hLow : 0 ≤ value) (hHigh : value < 2 ^ 31) : toInt32 value = value := by
  rw [toInt32, Int.bmod_eq_of_le] <;> omega

theorem toInt32_lt (value : Int) : toInt32 value < 2 ^ 31 := by
  have hLess := Int.bmod_lt (x := value) (m := 2 ^ 32) (by decide)
  rw [toInt32]
  omega

theorem cvChannels_of_le {n : Int} (hPos : 0 < n) (hMax : n ≤ 512) : cvChannels n = n := by
  rw [cvChannels]
  omega

/-- A header over a buffer that is as large as the pixels it speaks of. -/
def Mat.over (rows cols channels : Int) (hRows : 0 < rows ∧ rows < 2 ^ 31) (hCols : 0 < cols ∧ cols < 2 ^ 31)
    (hChannels : 0 < channels ∧ channels ≤ 512) : Mat where
  toMatHeader := .over rows cols channels (rows * cols * channels)
  rows_pos := hRows.1
  rows_int := hRows.2
  cols_pos := hCols.1
  cols_int := hCols.2
  channels_pos := hChannels.1
  channels_max := hChannels.2
  step_fits := le_refl _
  step_size := by
    have hProduct : cols * channels ≤ 2 ^ 31 * 512 := by
      have := mul_le_mul hCols.2.le hChannels.2 hChannels.1.le (by norm_num)
      exact this
    show cols * channels < 2 ^ 64
    omega
  size_fits := by
    show (rows - 1) * (cols * channels) + cols * channels ≤ rows * cols * channels
    linarith [mul_assoc rows cols channels]

/-- An array of two dimensions is wrapped as a frame with one channel. -/
theorem numpyToMat_gray {h w : Nat} (hRows : 0 < (h : Int) ∧ (h : Int) < 2 ^ 31)
    (hCols : 0 < (w : Int) ∧ (w : Int) < 2 ^ 31) :
    numpyToMat [h, w] = .ok (Mat.over h w 1 hRows hCols (by decide)).toMatHeader := by
  rw [numpyToMat, toInt32_of_lt hRows.1.le hRows.2, toInt32_of_lt hCols.1.le hCols.2]
  simp [Mat.over]

/-- An array of three dimensions is wrapped with its last one as channels, as far as OpenCV has as many. -/
theorem numpyToMat_channels {h w c : Nat} (hRows : 0 < (h : Int) ∧ (h : Int) < 2 ^ 31)
    (hCols : 0 < (w : Int) ∧ (w : Int) < 2 ^ 31) (hChannels : 0 < (c : Int) ∧ (c : Int) ≤ 512) :
    numpyToMat [h, w, c] = .ok (Mat.over h w c hRows hCols hChannels).toMatHeader := by
  rw [numpyToMat, toInt32_of_lt hRows.1.le hRows.2, toInt32_of_lt hCols.1.le hCols.2,
    cvChannels_of_le hChannels.1 hChannels.2]
  rfl

/-! ## Pixel for pixel -/

/-- Whatever `SendFrame` has libyuv read for a pixel are bytes of this pixel, and bytes of the buffer. -/
def PixelForPixel (frame : Mat) : Prop :=
  ∀ hasSource image, AMediaTrackHandler.Impl.sendFrame hasSource frame.toMatHeader = some image →
    ∀ x y i, 0 ≤ x → x < image.width → 0 ≤ y → y < image.height → 0 ≤ i → i < 3 →
      frame.IsByteOf x y (image.offset x y i) ∧ 0 ≤ image.offset x y i ∧ image.offset x y i < frame.size

theorem image_of_sendFrame {hasSource : Bool} {frame : MatHeader} {image : Rgb24Image}
    (hSent : AMediaTrackHandler.Impl.sendFrame hasSource frame = some image) : image = cvMat2VideoFrame frame := by
  cases hasSource with
  | false => cases hSent
  | true =>
      cases hSent
      rfl

theorem Mat.step_nonneg (frame : Mat) : 0 ≤ frame.step :=
  le_trans (mul_nonneg frame.cols_pos.le frame.channels_pos.le) frame.step_fits

/-- The bytes of a pixel are bytes of the buffer. -/
theorem Mat.byte_in_buffer (frame : Mat) {x y offset : Int} (hX : 0 ≤ x) (hCols : x < frame.cols) (hY : 0 ≤ y)
    (hRows : y < frame.rows) (hByte : frame.IsByteOf x y offset) : 0 ≤ offset ∧ offset < frame.size := by
  have hStep := frame.step_nonneg
  constructor
  · have hRow : 0 ≤ y * frame.step := mul_nonneg hY hStep
    have hCol : 0 ≤ x * frame.channels := mul_nonneg hX frame.channels_pos.le
    exact le_trans (add_nonneg hRow hCol) hByte.1
  · have hRow : y * frame.step ≤ (frame.rows - 1) * frame.step := mul_le_mul_of_nonneg_right (by omega) hStep
    have hCol : (x + 1) * frame.channels ≤ frame.cols * frame.channels :=
      mul_le_mul_of_nonneg_right (by omega) frame.channels_pos.le
    exact lt_of_lt_of_le hByte.2 (le_trans (add_le_add hRow hCol) frame.size_fits)

/-- A frame is converted pixel for pixel exactly if it has three channels, or more but a single column, and its step
is not changed by the conversion to `int`, where there is a second row. -/
theorem pixelForPixel_iff (frame : Mat) :
    PixelForPixel frame ↔
      (frame.channels = 3 ∨ 3 < frame.channels ∧ frame.cols = 1) ∧ (frame.rows = 1 ∨ frame.step < 2 ^ 31) := by
  constructor
  · intro h
    have hReads := h true (cvMat2VideoFrame frame.toMatHeader) rfl
    have hRows := frame.rows_pos
    have hCols := frame.cols_pos
    have hThree : 3 ≤ frame.channels := by
      -- The last of the three bytes read for the first pixel is its own.
      have hLast := (hReads 0 0 2 le_rfl hCols le_rfl hRows (by decide) (by decide)).1.2
      simp only [Rgb24Image.offset, zero_mul, mul_zero, zero_add, one_mul] at hLast
      omega
    constructor
    · by_cases hSingle : frame.cols = 1
      · omega
      · have hSecond := (hReads 1 0 0 (by decide) (show 1 < frame.cols by omega) le_rfl hRows le_rfl (by decide)).1.1
        simp only [Rgb24Image.offset, zero_mul, mul_one, one_mul, zero_add, add_zero] at hSecond
        omega
    · by_cases hSingle : frame.rows = 1
      · exact .inl hSingle
      · have hSecond := (hReads 0 1 0 le_rfl hCols (by decide) (show 1 < frame.rows by omega) le_rfl (by decide)).1.1
        simp only [Rgb24Image.offset, cvMat2VideoFrame, zero_mul, mul_zero, one_mul, add_zero] at hSecond
        exact .inr (lt_of_le_of_lt hSecond (toInt32_lt frame.step))
  · rintro ⟨hChannels, hStep⟩ hasSource image hSent x y i hX hWidth hY hHeight hI hI'
    obtain rfl := image_of_sendFrame hSent
    have hRow : y * toInt32 frame.step = y * frame.step := by
      rcases hStep with hSingle | hNarrow
      · have hZero : y = 0 := by
          have hBelow : y < frame.rows := hHeight
          omega
        rw [hZero, zero_mul, zero_mul]
      · rw [toInt32_of_lt frame.step_nonneg hNarrow]
    have hByte : frame.IsByteOf x y ((cvMat2VideoFrame frame.toMatHeader).offset x y i) := by
      simp only [MatHeader.IsByteOf, Rgb24Image.offset, cvMat2VideoFrame, hRow]
      rcases hChannels with hThree | ⟨hMore, hSingle⟩
      · rw [hThree]
        omega
      · have hZero : x = 0 := by
          have hBelow : x < frame.cols := hWidth
          omega
        rw [hZero]
        omega
    exact ⟨hByte, frame.byte_in_buffer hX hWidth hY hHeight hByte⟩

/-- A color image with an alpha channel, as it comes from an array of 480 by 640 by 4. -/
def alphaFrame : Mat := .over 480 640 4 (by decide) (by decide) (by decide)

/-- It comes from Python, and is not converted pixel for pixel. -/
theorem alpha_frame_sheared : numpyToMat [480, 640, 4] = .ok alphaFrame.toMatHeader ∧ ¬ PixelForPixel alphaFrame := by
  refine ⟨numpyToMat_channels (by decide) (by decide) (by decide), fun h => ?_⟩
  have hSecond := (h true _ rfl 1 0 0 (by decide) (by decide) (by decide) (by decide) (by decide) (by decide)).1.1
  exact absurd hSecond (by decide)

end MosaicCore
