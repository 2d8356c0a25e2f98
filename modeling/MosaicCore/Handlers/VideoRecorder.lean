import MosaicCore.Core.Fault

/-!
# The video recorder

`VideoRecorder` of `video_recorder.cpp` holds a `cv::VideoWriter` and the settings that the next file is
opened with.  The writer keeps a log of the calls it received, oldest first; of what it answers, only
`isOpened` is read.  `open` may throw.  Of `write` and `release` it is assumed that they return, and that
`isOpened` changes only through `open` and `release`.

Frames are an arbitrary type `φ` and doubles an arbitrary type `δ`: the recorder stores and hands on both
and looks at neither.
-/

namespace MosaicCore

open EffectProgram

/-! ## File names -/

/-- What `std::localtime` fills in, as far as the name of a recording shows it. -/
structure Tm where
  year : Int
  mon : Fin 12
  mday : Fin 32
  hour : Fin 24
  min : Fin 60
  sec : Fin 61
  deriving DecidableEq, Repr

/-- Two decimal digits: `%m`, `%d`, `%H`, `%M` and `%S`. -/
def twoDigits (n : Nat) : String :=
  String.ofList [(n / 10).digitChar, (n % 10).digitChar]

/-- `std::put_time(&tm, "%Y%m%d_%H%M%S")`.  The year counts from 1900 and the month from 0. -/
def putTime (tm : Tm) : String :=
  Int.repr (1900 + tm.year) ++ twoDigits (tm.mon + 1) ++ twoDigits tm.mday ++ "_" ++
    twoDigits tm.hour ++ twoDigits tm.min ++ twoDigits tm.sec

/-- The machine's clock: how fine `system_clock` ticks, and how a `time_t` reads in its time zone. -/
structure Clock where
  ticksPerSecond : Int
  localtime : Int → Tm

/-- `system_clock::to_time_t` casts to whole seconds, towards zero. -/
def Clock.toTimeT (clock : Clock) (now : Int) : Int := now.tdiv clock.ticksPerSecond

/-- `VideoRecorder::Impl::GetFilename` at the clock reading `now`. -/
def getFilename (clock : Clock) (recordFilePath : String) (now : Int) : String :=
  recordFilePath ++ "/recording_" ++ putTime (clock.localtime (clock.toTimeT now)) ++ ".avi"

/-! ## The writer -/

/-- The arguments of `cv::VideoWriter::open`. -/
structure OpenArguments (δ : Type) where
  fileName : String
  fourcc : Char × Char × Char × Char
  fps : δ
  frameSize : Int × Int
  isColor : Bool
  deriving DecidableEq, Repr

/-- A call on the writer that does something. -/
inductive WriterCall (φ δ : Type)
  | openFile (arguments : OpenArguments δ)
  | write (frame : φ)
  | release
  deriving DecidableEq, Repr

/-- How a call of `open` ends: the file is open, it is not, or OpenCV throws. -/
inductive Opening
  | opens
  | fails
  | throws (what : String)
  deriving DecidableEq, Repr

/-- `cv::VideoWriter`: `isOpened`, and the calls so far. -/
structure VideoWriter (φ δ : Type) where
  isOpened : Bool := false
  calls : List (WriterCall φ δ) := []
  deriving DecidableEq, Repr

variable {φ δ : Type}

/-- `open`. -/
def VideoWriter.openFile (arguments : OpenArguments δ) (opening : Opening) : Program (VideoWriter φ δ) PUnit := do
  modify fun w => { isOpened := opening = .opens, calls := w.calls ++ [.openFile arguments] }
  match opening with
  | .throws what => throw (.exception what)
  | _ => pure ()

/-- `release`, which is assumed to return. -/
def VideoWriter.release : Program (VideoWriter φ δ) PUnit :=
  modify fun w => { isOpened := false, calls := w.calls ++ [.release] }

/-- `write`, which is assumed to return and to leave `isOpened` as it is. -/
def VideoWriter.write (frame : φ) : Program (VideoWriter φ δ) PUnit :=
  modify fun w => { w with calls := w.calls ++ [.write frame] }

/-! ## The recorder -/

/-- `VideoRecorder::Impl`. -/
structure VideoRecorder (φ δ : Type) [OfScientific δ] where
  recordFilePath : String
  fps : δ := 30.0
  width : Int := 640
  height : Int := 480
  videoWriter : VideoWriter φ δ := {}
  deriving Repr

namespace VideoRecorder

variable [OfScientific δ]

/-- Use the writer. -/
def onWriter {α : Type} (p : Program (VideoWriter φ δ) α) : Program (VideoRecorder φ δ) α :=
  zoom (fun r => r.videoWriter) (fun w r => { r with videoWriter := w }) p

/-- `SetRecordFilePath`. -/
def setRecordFilePath (recordFilePath : String) : Program (VideoRecorder φ δ) PUnit :=
  modify fun r => { r with recordFilePath := recordFilePath }

/-- `SetVideoParameters`. -/
def setVideoParameters (fps : δ) (width height : Int) : Program (VideoRecorder φ δ) PUnit :=
  modify fun r => { r with fps := fps, width := width, height := height }

/-- The arguments `Start` opens the writer with. -/
def openArguments (clock : Clock) (now : Int) (r : VideoRecorder φ δ) : OpenArguments δ where
  fileName := getFilename clock r.recordFilePath now
  fourcc := ('M', 'J', 'P', 'G')
  fps := r.fps
  frameSize := (r.width, r.height)
  isColor := true

/-- `Start`, at the clock reading `now`. -/
def start (clock : Clock) (now : Int) (opening : Opening) : Program (VideoRecorder φ δ) PUnit := do
  let r ← get
  if !r.videoWriter.isOpened then
    onWriter (VideoWriter.openFile (r.openArguments clock now) opening)
    if !(← get).videoWriter.isOpened then
      throw (.exception "Failed to open video writer")

/-- `Stop`. -/
def stop : Program (VideoRecorder φ δ) PUnit := do
  if (← get).videoWriter.isOpened then
    onWriter VideoWriter.release

/-- `SaveFrame`. -/
def saveFrame (frame : φ) : Program (VideoRecorder φ δ) PUnit := do
  if (← get).videoWriter.isOpened then
    onWriter (VideoWriter.write frame)
  else
    throw (.exception "Video writer is not opened")

/-! ## What each of them does -/

/-- The recorder after a call of `open`. -/
def afterOpening (clock : Clock) (now : Int) (opening : Opening) (r : VideoRecorder φ δ) : VideoRecorder φ δ :=
  { r with
    videoWriter :=
      { isOpened := opening = .opens
        calls := r.videoWriter.calls ++ [.openFile (r.openArguments clock now)] } }

/-- An open writer is left alone. -/
theorem start_run_opened (clock : Clock) (now : Int) (opening : Opening) {r : VideoRecorder φ δ}
    (hOpened : r.videoWriter.isOpened = true) : (start clock now opening).run r = .ok () r := by
  simp [start, hOpened, EStateM.run_bind]

/-- A closed writer is opened, and a failure to open it is an exception. -/
theorem start_run_closed (clock : Clock) (now : Int) (opening : Opening) {r : VideoRecorder φ δ}
    (hClosed : r.videoWriter.isOpened = false) :
    (start clock now opening).run r =
      match opening with
      | .opens => .ok () (r.afterOpening clock now opening)
      | .fails => .error (.exception "Failed to open video writer") (r.afterOpening clock now opening)
      | .throws what => .error (.exception what) (r.afterOpening clock now opening) := by
  cases opening <;>
    simp [start, hClosed, EStateM.run_bind, onWriter, zoom_run, VideoWriter.openFile, afterOpening]

theorem stop_run (r : VideoRecorder φ δ) :
    (stop : Program (VideoRecorder φ δ) PUnit).run r =
      .ok () (if r.videoWriter.isOpened then
        { r with videoWriter := { isOpened := false, calls := r.videoWriter.calls ++ [.release] } } else r) := by
  cases hOpened : r.videoWriter.isOpened <;>
    simp [stop, hOpened, EStateM.run_bind, onWriter, zoom_run, VideoWriter.release]

theorem saveFrame_run_opened (frame : φ) {r : VideoRecorder φ δ} (hOpened : r.videoWriter.isOpened = true) :
    (saveFrame frame).run r =
      .ok () { r with
        videoWriter := { r.videoWriter with calls := r.videoWriter.calls ++ [.write frame] } } := by
  simp [saveFrame, hOpened, EStateM.run_bind, onWriter, zoom_run, VideoWriter.write]

end VideoRecorder

end MosaicCore
