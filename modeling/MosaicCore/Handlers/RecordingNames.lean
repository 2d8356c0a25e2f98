import Mathlib
import MosaicCore.Handlers.Recordable

/-!
# The names of the recordings

A recording is named after the local time of its opening, to the second.  Two openings for one path get the same
name exactly if the local time reads the same: within one second, or in an hour that local time repeats.
-/

namespace MosaicCore

open EffectProgram EventRun

/-! ## Names read back as times -/

/-- Below 100, two digits show the number. -/
theorem twoDigits_inj {n n' : Nat} (hn : n < 100) (hn' : n' < 100) : twoDigits n = twoDigits n' ↔ n = n' := by
  constructor
  · intro hSame
    have hDigits := String.ofList_inj.mp hSame
    simp only [List.cons.injEq, and_true] at hDigits
    have hTens := congrArg Char.toNat hDigits.1
    have hOnes := congrArg Char.toNat hDigits.2
    rw [Nat.toNat_digitChar_of_lt_ten (by omega), Nat.toNat_digitChar_of_lt_ten (by omega)] at hTens hOnes
    omega
  · rintro rfl
    rfl

/-- Fixed width at the end: the two parts of a text can be told apart. -/
theorem append_twoDigits_inj {s s' : String} {n n' : Nat} :
    s ++ twoDigits n = s' ++ twoDigits n' ↔ s = s' ∧ twoDigits n = twoDigits n' := by
  constructor
  · intro hSame
    have hChars : s.toList ++ (twoDigits n).toList = s'.toList ++ (twoDigits n').toList := by
      rw [← String.toList_append, ← String.toList_append, hSame]
    obtain ⟨hFront, hBack⟩ := List.append_inj' hChars (by simp [twoDigits])
    exact ⟨String.toList_inj.mp hFront, String.toList_inj.mp hBack⟩
  · rintro ⟨rfl, hBack⟩
    rw [hBack]

/-- The printed time shows the year, the month, the day, the hour, the minute and the second. -/
theorem putTime_inj {tm tm' : Tm} : putTime tm = putTime tm' ↔ tm = tm' := by
  constructor
  · intro hSame
    simp only [putTime, append_twoDigits_inj, String.append_left_inj, Int.repr_inj] at hSame
    obtain ⟨⟨⟨⟨⟨hYear, hMon⟩, hMday⟩, hHour⟩, hMin⟩, hSec⟩ := hSame
    rw [twoDigits_inj (by omega) (by omega)] at hMon hMday hHour hMin hSec
    obtain ⟨year, mon, mday, hour, min, sec⟩ := tm
    simp only at hYear hMon hMday hHour hMin hSec
    obtain rfl : year = tm'.year := by omega
    obtain rfl : mon = tm'.mon := Fin.ext (by omega)
    obtain rfl : mday = tm'.mday := Fin.ext hMday
    obtain rfl : hour = tm'.hour := Fin.ext hHour
    obtain rfl : min = tm'.min := Fin.ext hMin
    obtain rfl : sec = tm'.sec := Fin.ext hSec
    rfl
  · rintro rfl
    rfl

/-- For one path, the file names are the same exactly if the local times are. -/
theorem getFilename_inj (clock : Clock) (recordFilePath : String) (now now' : Int) :
    getFilename clock recordFilePath now = getFilename clock recordFilePath now' ↔
      clock.localtime (clock.toTimeT now) = clock.localtime (clock.toTimeT now') := by
  simp only [getFilename, String.append_left_inj, String.append_right_inj, putTime_inj]

/-! ## The openings of a run -/

variable {φ δ : Type} [OfScientific δ]

/-- An opening of the writer: the path it is for, the clock reading, and the file it is given. -/
structure OpenedFile where
  recordFilePath : String
  now : Int
  fileName : String
  deriving DecidableEq, Repr

namespace Recordable

/-- The files that a call opens, taken from the log of the writer. -/
def openedFiles (clock : Clock) (s : Recordable φ δ) : RecordableCall φ δ → List OpenedFile
  | .startRecording now opening =>
      match s.videoRecorder with
      | none => []
      | some r =>
          let added := (recordableStep clock s (.startRecording now opening)).writerCalls.drop s.writerCalls.length
          added.filterMap fun call =>
            match call with
            | .openFile arguments => some ⟨r.recordFilePath, now, arguments.fileName⟩
            | _ => none
  | _ => []

/-- The files that a run opens, in order. -/
def openings (clock : Clock) (s : Recordable φ δ) : List (RecordableCall φ δ) → List OpenedFile
  | [] => []
  | call :: rest => openedFiles clock s call ++ openings clock (recordableStep clock s call) rest

/-- An opened file is named after its path and the time. -/
theorem fileName_of_openedFiles {clock : Clock} {s : Recordable φ δ} (h : s.RecorderAgrees)
    {call : RecordableCall φ δ} {file : OpenedFile} (hOpened : file ∈ openedFiles clock s call) :
    file.fileName = getFilename clock file.recordFilePath file.now := by
  cases call with
  | startRecording now opening =>
      rcases recorderAgrees_cases h with rfl | ⟨r, state, rfl, hWriter⟩
      · cases hOpened
      · obtain ⟨r', state', hStep, hCase⟩ := step_cases clock hWriter (.startRecording now opening)
        simp only [openedFiles, hStep, writerCalls, Option.map_some, Option.getD_some] at hOpened
        rcases hCase with ⟨hSame, -, -⟩ | ⟨now', opening', hCall, -, rfl, -⟩ | ⟨hCall, -⟩ | ⟨frame, hCall, -⟩
        · simp [hSame] at hOpened
        · cases hCall
          simp only [VideoRecorder.afterOpening, List.drop_left, List.filterMap_cons, List.filterMap_nil,
            List.mem_singleton] at hOpened
          rw [hOpened]
          rfl
        · cases hCall
        · cases hCall
  | setRecordFilePath recordFilePath answers => cases hOpened
  | setVideoParameters fps width height => cases hOpened
  | pauseRecording => cases hOpened
  | resumeRecording => cases hOpened
  | stopRecording => cases hOpened
  | recordFrame frame => cases hOpened

theorem fileName_of_openings {clock : Clock} {calls : List (RecordableCall φ δ)} {s : Recordable φ δ}
    (h : s.RecorderAgrees) {file : OpenedFile} (hOpened : file ∈ openings clock s calls) :
    file.fileName = getFilename clock file.recordFilePath file.now := by
  induction calls generalizing s with
  | nil => cases hOpened
  | cons call rest ih =>
      rcases List.mem_append.mp hOpened with hHere | hLater
      · exact fileName_of_openedFiles h hHere
      · exact ih (recorderAgrees_step clock h call) hLater

/-- Any two openings of a run for the same path are given the same file exactly if the local time, to the second,
reads the same at both. -/
theorem openings_share_name_iff (clock : Clock) {s : Recordable φ δ} (hReachable : Reachable clock s)
    (calls : List (RecordableCall φ δ)) :
    (openings clock s calls).Pairwise fun first second =>
      first.recordFilePath = second.recordFilePath →
        (first.fileName = second.fileName ↔
          clock.localtime (clock.toTimeT first.now) = clock.localtime (clock.toTimeT second.now)) := by
  refine List.Pairwise.imp_of_mem ?_ (List.pairwise_of_forall (R := fun _ _ => True) fun _ _ => trivial)
  intro first second hFirst hSecond _ hPath
  rw [fileName_of_openings hReachable.recorderAgrees hFirst, fileName_of_openings hReachable.recorderAgrees hSecond,
    hPath, getFilename_inj]

/-- Two recordings within the first second of the epoch. -/
def quickRestart : List (RecordableCall Nat Rat) :=
  [.startRecording 0 .opens, .stopRecording, .startRecording 500000000 .opens]

theorem openings_share_name_iff_quickRestart :
    (openings firstDay fresh quickRestart).Pairwise fun first second =>
      first.recordFilePath = second.recordFilePath →
        (first.fileName = second.fileName ↔
          firstDay.localtime (firstDay.toTimeT first.now) = firstDay.localtime (firstDay.toTimeT second.now)) :=
  openings_share_name_iff firstDay (reachable_fresh firstDay) quickRestart

/-- The clock readings of a run, in order. -/
def clockReadings (calls : List (RecordableCall φ δ)) : List Int :=
  calls.filterMap fun call =>
    match call with
    | .startRecording now _ => some now
    | _ => none

/-- Names are not unique, even under a clock that only goes forward: the second recording of `quickRestart`
overwrites the first. -/
theorem recording_overwritten :
    ¬ ∀ (clock : Clock) (s : Recordable Nat Rat), Reachable clock s → ∀ calls,
        (clockReadings calls).Pairwise (· ≤ ·) →
        (openings clock s calls).Pairwise fun first second =>
          first.recordFilePath = second.recordFilePath → first.fileName ≠ second.fileName := by
  intro hUnique
  have hOpenings : openings firstDay fresh quickRestart =
      [⟨"./recordings", 0, getFilename firstDay "./recordings" 0⟩,
        ⟨"./recordings", 500000000, getFilename firstDay "./recordings" 500000000⟩] := rfl
  have hDiffer := hUnique firstDay fresh (reachable_fresh firstDay) quickRestart (by decide)
  rw [hOpenings, List.pairwise_pair] at hDiffer
  exact hDiffer rfl ((getFilename_inj firstDay "./recordings" 0 500000000).mpr rfl)

end Recordable

end MosaicCore
